namespace MountSweep.Unicode.AgeTable

def page0 : List (Nat × Nat) := [
  (0x0, 11), (0x1F6, 30), (0x1FA, 11), (0x218, 30), (0x220, 32), (0x221, 40), (0x222, 30),
  (0x234, 40), (0x237, 41), (0x242, 50), (0x250, 11), (0x2A9, 30), (0x2AE, 40), (0x2B0, 11),
  (0x2DF, 30), (0x2E0, 11), (0x2EA, 30), (0x2EF, 40), (0x300, 11), (0x346, 30), (0x34F, 32),
  (0x350, 40), (0x358, 41), (0x35D, 40), (0x360, 11), (0x362, 30), (0x363, 32), (0x370, 51),
  (0x374, 11), (0x376, 51), (0x37A, 11), (0x37B, 50), (0x37E, 11), (0x37F, 70), (0x384, 11),
  (0x3CF, 51), (0x3D0, 11), (0x3D7, 30), (0x3D8, 32), (0x3DA, 11), (0x3DB, 30), (0x3DC, 11),
  (0x3DD, 30), (0x3DE, 11), (0x3DF, 30), (0x3E0, 11), (0x3E1, 30), (0x3E2, 11), (0x3F4, 31),
  (0x3F6, 32), (0x3F7, 40), (0x3FC, 41), (0x400, 30), (0x401, 11), (0x40D, 30), (0x40E, 11),
  (0x450, 30), (0x451, 11), (0x45D, 30), (0x45E, 11), (0x487, 51), (0x488, 30), (0x48A, 32),
  (0x48C, 30)]

def page1 : List (Nat × Nat) := [
  (0x490, 11), (0x4C5, 32), (0x4C7, 11), (0x4C9, 32), (0x4CB, 11), (0x4CD, 32), (0x4CF, 50),
  (0x4D0, 11), (0x4EC, 30), (0x4EE, 11), (0x4F6, 41), (0x4F8, 11), (0x4FA, 50), (0x500, 32),
  (0x510, 50), (0x514, 51), (0x524, 52), (0x526, 60), (0x528, 70), (0x531, 11), (0x560, 110),
  (0x561, 11), (0x588, 110), (0x589, 11), (0x58A, 30), (0x58D, 70), (0x58F, 61), (0x591, 20),
  (0x5A2, 41), (0x5A3, 20), (0x5B0, 11), (0x5BA, 50), (0x5BB, 11), (0x5C4, 20), (0x5C5, 41),
  (0x5D0, 11), (0x5EF, 110), (0x5F0, 11), (0x600, 40), (0x604, 61), (0x605, 70), (0x606, 51),
  (0x60B, 41), (0x60C, 11), (0x60D, 40), (0x616, 51), (0x61B, 11), (0x61C, 63), (0x61D, 140),
  (0x61E, 41), (0x61F, 11), (0x620, 60), (0x621, 11), (0x63B, 51), (0x640, 11), (0x653, 30),
  (0x656, 40), (0x659, 41), (0x65F, 60), (0x660, 11), (0x66E, 32), (0x670, 11), (0x6B8, 30),
  (0x6BA, 11)]

def page2 : List (Nat × Nat) := [
  (0x6BF, 30), (0x6C0, 11), (0x6CF, 30), (0x6D0, 11), (0x6EE, 40), (0x6F0, 11), (0x6FA, 30),
  (0x6FF, 40), (0x700, 30), (0x72D, 40), (0x730, 30), (0x74D, 40), (0x750, 41), (0x76E, 51),
  (0x780, 30), (0x7B1, 32), (0x7C0, 50), (0x7FD, 110), (0x800, 52), (0x840, 60), (0x860, 100),
  (0x870, 140), (0x897, 160), (0x898, 140), (0x8A0, 61), (0x8A1, 70), (0x8A2, 61), (0x8AD, 70),
  (0x8B3, 80), (0x8B5, 140), (0x8B6, 90), (0x8BE, 130), (0x8C8, 140), (0x8D3, 110),
  (0x8D4, 90), (0x8E3, 80), (0x8E4, 61), (0x8FF, 70), (0x900, 52), (0x901, 11), (0x904, 40),
  (0x905, 11), (0x93A, 60), (0x93C, 11), (0x94E, 52), (0x94F, 60), (0x950, 11), (0x955, 52),
  (0x956, 60), (0x958, 11), (0x971, 51), (0x973, 60), (0x978, 70), (0x979, 52), (0x97B, 50),
  (0x97D, 41), (0x97E, 50), (0x980, 70), (0x981, 11), (0x9BD, 40), (0x9BE, 11), (0x9CE, 41),
  (0x9D7, 11), (0x9FB, 52)]

def page3 : List (Nat × Nat) := [
  (0x9FC, 100), (0x9FE, 110), (0xA01, 40), (0xA02, 11), (0xA03, 40), (0xA05, 11), (0xA51, 51),
  (0xA59, 11), (0xA75, 51), (0xA76, 110), (0xA81, 11), (0xA8C, 40), (0xA8D, 11), (0xAE1, 40),
  (0xAE6, 11), (0xAF0, 61), (0xAF1, 40), (0xAF9, 80), (0xAFA, 100), (0xB01, 11), (0xB35, 40),
  (0xB36, 11), (0xB44, 51), (0xB47, 11), (0xB55, 130), (0xB56, 11), (0xB62, 51), (0xB66, 11),
  (0xB71, 40), (0xB72, 60), (0xB82, 11), (0xBB6, 41), (0xBB7, 11), (0xBD0, 51), (0xBD7, 11),
  (0xBE6, 41), (0xBE7, 11), (0xBF3, 40), (0xC00, 70), (0xC01, 11), (0xC04, 110), (0xC05, 11),
  (0xC34, 70), (0xC35, 11), (0xC3C, 140), (0xC3D, 51), (0xC3E, 11), (0xC58, 51), (0xC5A, 80),
  (0xC5D, 140), (0xC60, 11), (0xC62, 51), (0xC66, 11), (0xC77, 120), (0xC78, 51), (0xC80, 90),
  (0xC81, 70), (0xC82, 11), (0xC84, 110), (0xC85, 11), (0xCBC, 40), (0xCBE, 11), (0xCDD, 140),
  (0xCDE, 11)]

def page4 : List (Nat × Nat) := [
  (0xCE2, 50), (0xCE6, 11), (0xCF1, 50), (0xCF3, 150), (0xD00, 100), (0xD01, 70), (0xD02, 11),
  (0xD04, 130), (0xD05, 11), (0xD29, 60), (0xD2A, 11), (0xD3A, 60), (0xD3B, 100), (0xD3D, 51),
  (0xD3E, 11), (0xD44, 51), (0xD46, 11), (0xD4E, 60), (0xD4F, 90), (0xD57, 11), (0xD58, 90),
  (0xD5F, 80), (0xD60, 11), (0xD62, 51), (0xD66, 11), (0xD70, 51), (0xD76, 90), (0xD79, 51),
  (0xD81, 130), (0xD82, 30), (0xDE6, 70), (0xDF2, 30), (0xE01, 11), (0xE86, 120), (0xE87, 11),
  (0xE89, 120), (0xE8A, 11), (0xE8C, 120), (0xE8D, 11), (0xE8E, 120), (0xE94, 11),
  (0xE98, 120), (0xE99, 11), (0xEA0, 120), (0xEA1, 11), (0xEA8, 120), (0xEAA, 11),
  (0xEAC, 120), (0xEAD, 11), (0xEBA, 120), (0xEBB, 11), (0xECE, 150), (0xED0, 11), (0xEDE, 61),
  (0xF00, 20), (0xF6A, 30), (0xF6B, 51), (0xF71, 20), (0xF8C, 60), (0xF90, 20), (0xF96, 30),
  (0xF97, 20), (0xFAE, 30), (0xFB1, 20)]

def page5 : List (Nat × Nat) := [
  (0xFB8, 30), (0xFB9, 20), (0xFBA, 30), (0xFCE, 51), (0xFCF, 30), (0xFD0, 41), (0xFD2, 51),
  (0xFD5, 52), (0xFD9, 60), (0x1000, 30), (0x1022, 51), (0x1023, 30), (0x1028, 51),
  (0x1029, 30), (0x102B, 51), (0x102C, 30), (0x1033, 51), (0x1036, 30), (0x103A, 51),
  (0x1040, 30), (0x105A, 51), (0x109A, 52), (0x109E, 51), (0x10A0, 11), (0x10C7, 61),
  (0x10D0, 11), (0x10F7, 32), (0x10F9, 41), (0x10FB, 11), (0x10FC, 41), (0x10FD, 61),
  (0x1100, 11), (0x115A, 52), (0x115F, 11), (0x11A3, 52), (0x11A8, 11), (0x11FA, 52),
  (0x1200, 30), (0x1207, 41), (0x1208, 30), (0x1247, 41), (0x1248, 30), (0x1287, 41),
  (0x1288, 30), (0x12AF, 41), (0x12B0, 30), (0x12CF, 41), (0x12D0, 30), (0x12EF, 41),
  (0x12F0, 30), (0x130F, 41), (0x1310, 30), (0x131F, 41), (0x1320, 30), (0x1347, 41),
  (0x1348, 30), (0x135D, 60), (0x135F, 41), (0x1361, 30), (0x1380, 41), (0x13A0, 30),
  (0x13F5, 80), (0x1400, 52), (0x1401, 30)]

def page6 : List (Nat × Nat) := [
  (0x1677, 52), (0x1680, 30), (0x16F1, 70), (0x1700, 32), (0x170D, 140), (0x170E, 32),
  (0x1715, 140), (0x1720, 32), (0x1780, 30), (0x17DD, 40), (0x17E0, 30), (0x17F0, 40),
  (0x1800, 30), (0x180F, 140), (0x1810, 30), (0x1878, 110), (0x1880, 30), (0x18AA, 51),
  (0x18B0, 52), (0x1900, 40), (0x191D, 70), (0x1920, 40), (0x1980, 41), (0x19AA, 52),
  (0x19B0, 41), (0x19DA, 52), (0x19DE, 41), (0x19E0, 40), (0x1A00, 41), (0x1A20, 52),
  (0x1AB0, 70), (0x1ABF, 130), (0x1AC1, 140), (0x1B00, 50), (0x1B4C, 140), (0x1B4E, 160),
  (0x1B50, 50), (0x1B7D, 140), (0x1B7F, 160), (0x1B80, 51), (0x1BAB, 61), (0x1BAE, 51),
  (0x1BBA, 61), (0x1BC0, 60), (0x1C00, 51), (0x1C80, 90), (0x1C89, 160), (0x1C90, 110),
  (0x1CC0, 61), (0x1CD0, 52), (0x1CF3, 61), (0x1CF7, 100), (0x1CF8, 70), (0x1CFA, 120),
  (0x1D00, 40), (0x1D6C, 41), (0x1DC4, 50), (0x1DCB, 51), (0x1DE7, 70), (0x1DF6, 100),
  (0x1DFA, 140), (0x1DFB, 90), (0x1DFC, 60), (0x1DFD, 52)]

def page7 : List (Nat × Nat) := [
  (0x1DFE, 50), (0x1E00, 11), (0x1E9B, 20), (0x1E9C, 51), (0x1EA0, 11), (0x1EFA, 51),
  (0x1F00, 11), (0x202F, 30), (0x2030, 11), (0x2047, 32), (0x2048, 30), (0x204E, 32),
  (0x2053, 40), (0x2055, 41), (0x2057, 32), (0x2058, 41), (0x205F, 32), (0x2064, 51),
  (0x2066, 63), (0x206A, 11), (0x2071, 32), (0x2074, 11), (0x2090, 41), (0x2095, 60),
  (0x20A0, 11), (0x20AB, 20), (0x20AC, 21), (0x20AD, 30), (0x20B0, 32), (0x20B2, 41),
  (0x20B6, 52), (0x20B9, 60), (0x20BA, 62), (0x20BB, 70), (0x20BE, 80), (0x20BF, 100),
  (0x20C0, 140), (0x20D0, 11), (0x20E2, 30), (0x20E4, 32), (0x20EB, 41), (0x20EC, 50),
  (0x20F0, 51), (0x2100, 11), (0x2139, 30), (0x213B, 40), (0x213C, 41), (0x213D, 32),
  (0x214C, 41), (0x214D, 50), (0x214F, 51), (0x2150, 52), (0x2153, 11), (0x2183, 30),
  (0x2184, 50), (0x2185, 51), (0x2189, 52), (0x218A, 80), (0x2190, 11), (0x21EB, 30),
  (0x21F4, 32), (0x2200, 11), (0x22F2, 32), (0x2300, 11)]

def page8 : List (Nat × Nat) := [
  (0x2301, 30), (0x2302, 11), (0x237B, 30), (0x237C, 32), (0x237D, 30), (0x239B, 32),
  (0x23CF, 40), (0x23D1, 41), (0x23DC, 50), (0x23E8, 52), (0x23E9, 60), (0x23F4, 70),
  (0x23FB, 90), (0x23FF, 100), (0x2400, 11), (0x2425, 30), (0x2427, 160), (0x2440, 11),
  (0x24EB, 32), (0x24FF, 40), (0x2500, 11), (0x2596, 32), (0x25A0, 11), (0x25F0, 30),
  (0x25F8, 32), (0x2600, 11), (0x2614, 40), (0x2616, 32), (0x2618, 41), (0x2619, 30),
  (0x261A, 11), (0x2670, 30), (0x2672, 32), (0x267E, 41), (0x2680, 32), (0x268A, 40),
  (0x2692, 41), (0x269D, 51), (0x269E, 52), (0x26A0, 40), (0x26A2, 41), (0x26B2, 50),
  (0x26B3, 51), (0x26BD, 52), (0x26C0, 51), (0x26C4, 52), (0x26CE, 60), (0x26CF, 52),
  (0x26E2, 60), (0x26E3, 52), (0x26E4, 60), (0x26E8, 52), (0x2700, 70), (0x2701, 11),
  (0x2705, 60), (0x2706, 11), (0x270A, 60), (0x270C, 11), (0x2728, 60), (0x2729, 11),
  (0x274C, 60), (0x274D, 11), (0x274E, 60), (0x274F, 11)]

def page9 : List (Nat × Nat) := [
  (0x2753, 60), (0x2756, 11), (0x2757, 52), (0x2758, 11), (0x275F, 60), (0x2761, 11),
  (0x2768, 32), (0x2776, 11), (0x2795, 60), (0x2798, 11), (0x27B0, 60), (0x27B1, 11),
  (0x27BF, 60), (0x27C0, 41), (0x27C7, 50), (0x27CB, 61), (0x27CC, 51), (0x27CD, 61),
  (0x27CE, 60), (0x27D0, 32), (0x27EC, 51), (0x27F0, 32), (0x2800, 30), (0x2900, 32),
  (0x2B00, 40), (0x2B0E, 41), (0x2B14, 50), (0x2B1B, 51), (0x2B20, 50), (0x2B24, 51),
  (0x2B4D, 70), (0x2B50, 51), (0x2B55, 52), (0x2B5A, 70), (0x2B97, 130), (0x2B98, 70),
  (0x2BBA, 110), (0x2BBD, 70), (0x2BC9, 120), (0x2BCA, 70), (0x2BD2, 100), (0x2BD3, 110),
  (0x2BEC, 80), (0x2BF0, 110), (0x2BFF, 120), (0x2C00, 41), (0x2C2F, 140), (0x2C30, 41),
  (0x2C5F, 140), (0x2C60, 50), (0x2C6D, 51), (0x2C70, 52), (0x2C71, 51), (0x2C74, 50),
  (0x2C78, 51), (0x2C7E, 52), (0x2C80, 41), (0x2CEB, 52), (0x2CF2, 61), (0x2CF9, 41),
  (0x2D27, 61), (0x2D30, 41), (0x2D66, 61), (0x2D6F, 41)]

def page10 : List (Nat × Nat) := [
  (0x2D70, 60), (0x2D80, 41), (0x2DE0, 51), (0x2E00, 41), (0x2E18, 51), (0x2E1C, 41),
  (0x2E1E, 51), (0x2E31, 52), (0x2E32, 61), (0x2E3C, 70), (0x2E43, 90), (0x2E45, 100),
  (0x2E4A, 110), (0x2E4F, 120), (0x2E50, 130), (0x2E53, 140), (0x2E80, 30), (0x2FFC, 151),
  (0x3000, 11), (0x3038, 30), (0x303B, 32), (0x303E, 30), (0x303F, 11), (0x3095, 32),
  (0x3099, 11), (0x309F, 32), (0x30A1, 11), (0x30FF, 32), (0x3105, 11), (0x312D, 51),
  (0x312E, 100), (0x312F, 110), (0x3131, 11), (0x31A0, 30), (0x31B8, 60), (0x31BB, 130),
  (0x31C0, 41), (0x31D0, 51), (0x31E4, 160), (0x31EF, 151), (0x31F0, 32), (0x3200, 11),
  (0x321D, 40), (0x3220, 11), (0x3244, 52), (0x3250, 40), (0x3251, 32), (0x3260, 11),
  (0x327C, 40), (0x327E, 41), (0x327F, 11), (0x32B1, 32), (0x32C0, 11), (0x32CC, 40),
  (0x32D0, 11), (0x32FF, 121), (0x3300, 11), (0x3377, 40), (0x337B, 11), (0x33DE, 40),
  (0x33E0, 11), (0x33FF, 40), (0x3400, 30), (0x4DB6, 130)]

def page11 : List (Nat × Nat) := [
  (0x4DC0, 40), (0x4E00, 11), (0x9FA6, 41), (0x9FBC, 51), (0x9FC4, 52), (0x9FCC, 61),
  (0x9FCD, 80), (0x9FD6, 100), (0x9FEB, 110), (0x9FF0, 130), (0x9FFD, 140), (0xA000, 30),
  (0xA4A2, 32), (0xA4A4, 30), (0xA4B4, 32), (0xA4B5, 30), (0xA4C1, 32), (0xA4C2, 30),
  (0xA4C5, 32), (0xA4C6, 30), (0xA4D0, 52), (0xA500, 51), (0xA660, 60), (0xA662, 51),
  (0xA674, 61), (0xA67C, 51), (0xA698, 70), (0xA69E, 80), (0xA69F, 61), (0xA6A0, 52),
  (0xA700, 41), (0xA717, 50), (0xA71B, 51), (0xA720, 50), (0xA722, 51), (0xA78D, 60),
  (0xA78F, 80), (0xA790, 60), (0xA792, 61), (0xA794, 70), (0xA7A0, 60), (0xA7AA, 61),
  (0xA7AB, 70), (0xA7AE, 90), (0xA7AF, 110), (0xA7B0, 70), (0xA7B2, 80), (0xA7B8, 110),
  (0xA7BA, 120), (0xA7C0, 140), (0xA7C2, 120), (0xA7C7, 130), (0xA7CB, 160), (0xA7D0, 140),
  (0xA7DA, 160), (0xA7F2, 140), (0xA7F5, 130), (0xA7F7, 70), (0xA7F8, 61), (0xA7FA, 60),
  (0xA7FB, 51), (0xA800, 41), (0xA82C, 130), (0xA830, 52)]

def page12 : List (Nat × Nat) := [
  (0xA840, 50), (0xA880, 51), (0xA8C5, 90), (0xA8CE, 51), (0xA8E0, 52), (0xA8FC, 80),
  (0xA8FE, 110), (0xA900, 51), (0xA960, 52), (0xA9E0, 70), (0xAA00, 51), (0xAA60, 52),
  (0xAA7C, 70), (0xAA80, 52), (0xAAE0, 61), (0xAB01, 60), (0xAB30, 70), (0xAB60, 80),
  (0xAB64, 70), (0xAB66, 120), (0xAB68, 130), (0xAB70, 80), (0xABC0, 52), (0xAC00, 20),
  (0xD7B0, 52), (0xD800, 20), (0xE000, 11), (0xFA2E, 61), (0xFA30, 32), (0xFA6B, 52),
  (0xFA70, 41), (0xFB00, 11), (0xFB1D, 30), (0xFB1E, 11), (0xFBB2, 60), (0xFBC2, 140),
  (0xFBD3, 11), (0xFD40, 140), (0xFD50, 11), (0xFDCF, 140), (0xFDD0, 31), (0xFDF0, 11),
  (0xFDFC, 32), (0xFDFD, 40), (0xFDFE, 140), (0xFE00, 32), (0xFE10, 41), (0xFE20, 11),
  (0xFE24, 51), (0xFE27, 70), (0xFE2E, 80), (0xFE30, 11), (0xFE45, 32), (0xFE47, 40),
  (0xFE49, 11), (0xFE73, 32), (0xFE74, 11), (0xFF5F, 32), (0xFF61, 11), (0xFFF9, 30),
  (0xFFFC, 21), (0xFFFD, 11), (0x10000, 40), (0x10140, 41)]

def page13 : List (Nat × Nat) := [
  (0x1018B, 70), (0x1018D, 90), (0x10190, 51), (0x1019C, 130), (0x101A0, 70), (0x101D0, 51),
  (0x102E0, 70), (0x10300, 31), (0x1031F, 70), (0x10320, 31), (0x1032D, 100), (0x10330, 31),
  (0x10350, 70), (0x10380, 40), (0x103A0, 41), (0x10400, 31), (0x10426, 40), (0x10428, 31),
  (0x1044E, 40), (0x104B0, 90), (0x10500, 70), (0x10570, 140), (0x105C0, 160), (0x10600, 70),
  (0x10780, 140), (0x10800, 40), (0x10840, 52), (0x10860, 70), (0x108E0, 80), (0x10900, 50),
  (0x1091A, 52), (0x1091F, 50), (0x10920, 51), (0x10980, 61), (0x109BC, 80), (0x109BE, 61),
  (0x109C0, 80), (0x10A00, 41), (0x10A34, 110), (0x10A38, 41), (0x10A48, 110), (0x10A50, 41),
  (0x10A60, 52), (0x10A80, 70), (0x10B00, 52), (0x10B80, 70), (0x10C00, 52), (0x10C80, 80),
  (0x10D00, 110), (0x10D40, 160), (0x10E60, 52), (0x10E80, 130), (0x10EC2, 160),
  (0x10EFD, 150), (0x10F00, 110), (0x10F70, 140), (0x10FB0, 130), (0x10FE0, 120),
  (0x11000, 60), (0x11070, 140), (0x1107F, 70), (0x11080, 52), (0x110C2, 140), (0x110CD, 110)]

def page14 : List (Nat × Nat) := [
  (0x110D0, 61), (0x11144, 110), (0x11147, 130), (0x11150, 70), (0x11180, 61), (0x111C9, 80),
  (0x111CD, 70), (0x111CE, 130), (0x111D0, 61), (0x111DA, 70), (0x111DB, 80), (0x111E1, 70),
  (0x1123E, 90), (0x1123F, 150), (0x11280, 80), (0x112B0, 70), (0x11300, 80), (0x11301, 70),
  (0x1133B, 110), (0x1133C, 70), (0x11350, 80), (0x11357, 70), (0x11380, 160), (0x11400, 90),
  (0x1145A, 130), (0x1145B, 90), (0x1145E, 110), (0x1145F, 120), (0x11460, 130), (0x11480, 70),
  (0x115CA, 80), (0x11600, 70), (0x11660, 90), (0x11680, 61), (0x116B8, 120), (0x116B9, 140),
  (0x116C0, 61), (0x116D0, 160), (0x11700, 80), (0x1171A, 110), (0x1171D, 80), (0x11740, 140),
  (0x11800, 110), (0x118A0, 70), (0x11900, 130), (0x119A0, 120), (0x11A00, 100),
  (0x11A84, 120), (0x11A86, 100), (0x11A9D, 110), (0x11A9E, 100), (0x11AB0, 140),
  (0x11AC0, 70), (0x11B00, 150), (0x11BC0, 160), (0x11C00, 90), (0x11D00, 100), (0x11D60, 110),
  (0x11F00, 150), (0x11F5A, 160), (0x11FB0, 130), (0x11FC0, 120), (0x12000, 50), (0x1236F, 70)]

def page15 : List (Nat × Nat) := [
  (0x12399, 80), (0x12400, 50), (0x12463, 70), (0x12470, 50), (0x12474, 70), (0x12480, 80),
  (0x12F90, 140), (0x13000, 52), (0x1342F, 150), (0x13430, 120), (0x13439, 150),
  (0x13460, 160), (0x14400, 80), (0x16100, 160), (0x16800, 60), (0x16A40, 70), (0x16A70, 140),
  (0x16AD0, 70), (0x16D40, 160), (0x16E40, 110), (0x16F00, 61), (0x16F45, 120), (0x16F50, 61),
  (0x16F7F, 120), (0x16F8F, 61), (0x16FE0, 90), (0x16FE1, 100), (0x16FE2, 120), (0x16FE4, 130),
  (0x17000, 90), (0x187ED, 110), (0x187F2, 120), (0x18800, 90), (0x18AF3, 130), (0x18CFF, 160),
  (0x18D00, 130), (0x1AFF0, 140), (0x1B000, 60), (0x1B002, 100), (0x1B11F, 140),
  (0x1B132, 150), (0x1B150, 120), (0x1B155, 150), (0x1B164, 120), (0x1B170, 100),
  (0x1BC00, 70), (0x1CC00, 160), (0x1CF00, 140), (0x1D000, 31), (0x1D129, 51), (0x1D12A, 31),
  (0x1D1DE, 80), (0x1D1E9, 140), (0x1D200, 41), (0x1D2C0, 150), (0x1D2E0, 110), (0x1D300, 40),
  (0x1D360, 50), (0x1D372, 110), (0x1D400, 31), (0x1D4C1, 40), (0x1D4C2, 31), (0x1D6A4, 41),
  (0x1D6A8, 31)]

def page16 : List (Nat × Nat) := [
  (0x1D7CA, 50), (0x1D7CE, 31), (0x1D800, 80), (0x1DF00, 140), (0x1DF25, 150), (0x1E000, 90),
  (0x1E030, 150), (0x1E100, 120), (0x1E290, 140), (0x1E2C0, 120), (0x1E4D0, 150),
  (0x1E5D0, 160), (0x1E7E0, 140), (0x1E800, 70), (0x1E900, 90), (0x1E94B, 120), (0x1E950, 90),
  (0x1EC71, 110), (0x1ED01, 120), (0x1EE00, 61), (0x1F000, 51), (0x1F0A0, 60), (0x1F0BF, 70),
  (0x1F0C1, 60), (0x1F0E0, 70), (0x1F100, 52), (0x1F10B, 70), (0x1F10D, 130), (0x1F110, 52),
  (0x1F12F, 110), (0x1F130, 60), (0x1F131, 52), (0x1F132, 60), (0x1F13D, 52), (0x1F13E, 60),
  (0x1F13F, 52), (0x1F140, 60), (0x1F142, 52), (0x1F143, 60), (0x1F146, 52), (0x1F147, 60),
  (0x1F14A, 52), (0x1F14F, 60), (0x1F157, 52), (0x1F158, 60), (0x1F15F, 52), (0x1F160, 60),
  (0x1F16A, 61), (0x1F16C, 120), (0x1F16D, 130), (0x1F170, 60), (0x1F179, 52), (0x1F17A, 60),
  (0x1F17B, 52), (0x1F17D, 60), (0x1F17F, 52), (0x1F180, 60), (0x1F18A, 52), (0x1F18E, 60),
  (0x1F190, 52), (0x1F191, 60), (0x1F19B, 90), (0x1F1AD, 130), (0x1F1E6, 60)]

def page17 : List (Nat × Nat) := [
  (0x1F200, 52), (0x1F201, 60), (0x1F210, 52), (0x1F232, 60), (0x1F23B, 90), (0x1F240, 52),
  (0x1F250, 60), (0x1F260, 100), (0x1F300, 60), (0x1F321, 70), (0x1F32D, 80), (0x1F330, 60),
  (0x1F336, 70), (0x1F337, 60), (0x1F37D, 70), (0x1F37E, 80), (0x1F380, 60), (0x1F394, 70),
  (0x1F3A0, 60), (0x1F3C5, 70), (0x1F3C6, 60), (0x1F3CB, 70), (0x1F3CF, 80), (0x1F3D4, 70),
  (0x1F3E0, 60), (0x1F3F1, 70), (0x1F3F8, 80), (0x1F400, 60), (0x1F43F, 70), (0x1F440, 60),
  (0x1F441, 70), (0x1F442, 60), (0x1F4F8, 70), (0x1F4F9, 60), (0x1F4FD, 70), (0x1F4FF, 80),
  (0x1F500, 60), (0x1F53E, 70), (0x1F540, 61), (0x1F544, 70), (0x1F54B, 80), (0x1F550, 60),
  (0x1F568, 70), (0x1F57A, 90), (0x1F57B, 70), (0x1F5A4, 90), (0x1F5A5, 70), (0x1F5FB, 60),
  (0x1F600, 61), (0x1F601, 60), (0x1F611, 61), (0x1F612, 60), (0x1F615, 61), (0x1F616, 60),
  (0x1F617, 61), (0x1F618, 60), (0x1F619, 61), (0x1F61A, 60), (0x1F61B, 61), (0x1F61C, 60),
  (0x1F61F, 61), (0x1F620, 60), (0x1F626, 61), (0x1F628, 60)]

def page18 : List (Nat × Nat) := [
  (0x1F62C, 61), (0x1F62D, 60), (0x1F62E, 61), (0x1F630, 60), (0x1F634, 61), (0x1F635, 60),
  (0x1F641, 70), (0x1F643, 80), (0x1F645, 60), (0x1F650, 70), (0x1F680, 60), (0x1F6C6, 70),
  (0x1F6D0, 80), (0x1F6D1, 90), (0x1F6D3, 100), (0x1F6D5, 120), (0x1F6D6, 130), (0x1F6DC, 150),
  (0x1F6DD, 140), (0x1F6E0, 70), (0x1F6F4, 90), (0x1F6F7, 100), (0x1F6F9, 110), (0x1F6FA, 120),
  (0x1F6FB, 130), (0x1F700, 60), (0x1F774, 150), (0x1F780, 70), (0x1F7D5, 110), (0x1F7D9, 150),
  (0x1F7E0, 120), (0x1F7F0, 140), (0x1F800, 70), (0x1F8B0, 130), (0x1F8B2, 160),
  (0x1F900, 100), (0x1F90C, 130), (0x1F90D, 120), (0x1F910, 80), (0x1F919, 90), (0x1F91F, 100),
  (0x1F920, 90), (0x1F928, 100), (0x1F930, 90), (0x1F931, 100), (0x1F933, 90), (0x1F93F, 120),
  (0x1F940, 90), (0x1F94C, 100), (0x1F94D, 110), (0x1F950, 90), (0x1F95F, 100), (0x1F96C, 110),
  (0x1F971, 120), (0x1F972, 130), (0x1F973, 110), (0x1F977, 130), (0x1F979, 140),
  (0x1F97A, 110), (0x1F97B, 120), (0x1F97C, 110), (0x1F980, 80), (0x1F985, 90), (0x1F992, 100)]

def page19 : List (Nat × Nat) := [
  (0x1F998, 110), (0x1F9A3, 130), (0x1F9A5, 120), (0x1F9AB, 130), (0x1F9AE, 120),
  (0x1F9B0, 110), (0x1F9BA, 120), (0x1F9C0, 80), (0x1F9C1, 110), (0x1F9C3, 120),
  (0x1F9CB, 130), (0x1F9CC, 140), (0x1F9CD, 120), (0x1F9D0, 100), (0x1F9E7, 110),
  (0x1FA00, 120), (0x1FA60, 110), (0x1FA70, 120), (0x1FA74, 130), (0x1FA75, 150),
  (0x1FA78, 120), (0x1FA7B, 140), (0x1FA80, 120), (0x1FA83, 130), (0x1FA87, 150),
  (0x1FA89, 160), (0x1FA90, 120), (0x1FA96, 130), (0x1FAA9, 140), (0x1FAAD, 150),
  (0x1FAB0, 130), (0x1FAB7, 140), (0x1FABB, 150), (0x1FABE, 160), (0x1FABF, 150),
  (0x1FAC0, 130), (0x1FAC3, 140), (0x1FAC6, 160), (0x1FACE, 150), (0x1FAD0, 130),
  (0x1FAD7, 140), (0x1FADA, 150), (0x1FADC, 160), (0x1FAE0, 140), (0x1FAE8, 150),
  (0x1FAE9, 160), (0x1FAF0, 140), (0x1FAF7, 150), (0x1FB00, 130), (0x1FBCB, 160),
  (0x1FBF0, 130), (0x1FFFE, 20), (0x20000, 31), (0x2A6D7, 130), (0x2A6DE, 140), (0x2A700, 52),
  (0x2B735, 140), (0x2B739, 150), (0x2B740, 60), (0x2B820, 80), (0x2CEB0, 100), (0x2EBF0, 151),
  (0x2F800, 31), (0x2FFFE, 20)]

def page20 : List (Nat × Nat) := [
  (0x30000, 130), (0x31350, 150), (0x3FFFE, 20), (0xE0001, 31), (0xE0100, 40), (0xEFFFE, 20)]

def pages : List (Nat × List (Nat × Nat)) := [
  (0x0, page0), (0x490, page1), (0x6BF, page2), (0x9FC, page3), (0xCE2, page4), (0xFB8, page5),
  (0x1677, page6), (0x1DFE, page7), (0x2301, page8), (0x2753, page9), (0x2D70, page10),
  (0x4DC0, page11), (0xA840, page12), (0x1018B, page13), (0x110D0, page14), (0x12399, page15),
  (0x1D7CA, page16), (0x1F200, page17), (0x1F62C, page18), (0x1F998, page19), (0x30000, page20)]

def versions : List Nat := [
  11, 20, 21, 30, 31, 32, 40, 41, 50, 51, 52, 60, 61, 62, 63, 70, 80, 90, 100, 110, 120, 121,
  130, 140, 150, 151, 160]

end MountSweep.Unicode.AgeTable
