import MountSweep.Names
import MountSweep.Proofs.Files.Paths
import MountSweep.Proofs.Settings
import MountSweep.Proofs.Text.Utf8

namespace MountSweep

namespace NameGenerator

variable {m n : UInt64}

theorem toList_nth (n : UInt64) :
    (nth n).toList = "testfile_".toList ++ Nat.toDigits 10 n.toNat := by
  rw [nth, String.toList_append, Nat.toString_eq_ofList_toDigits, String.toList_ofList]
  rfl

theorem toNat_of_mem_nth {c : Char} (h : c ∈ (nth n).toList) : 48 ≤ c.toNat ∧ c.toNat < 128 := by
  rw [toList_nth, List.mem_append] at h
  rcases h with h | h
  · have hall : "testfile_".toList.all fun c ↦ 48 ≤ c.toNat ∧ c.toNat < 128 := by decide
    exact of_decide_eq_true (List.all_eq_true.mp hall c h)
  · have hdigit := Nat.isDigit_of_mem_toDigits (by decide) (by decide) h
    simp only [Char.isDigit, Bool.and_eq_true, decide_eq_true_eq, UInt32.le_iff_toNat_le] at hdigit
    exact ⟨hdigit.1, Nat.lt_of_le_of_lt hdigit.2 (by decide)⟩

def entry (n : UInt64) : Bytes := Bytes.ofString (nth n)

theorem entry_eq (n : UInt64) : entry n = (nth n).toList.map fun c ↦ UInt8.ofNat c.toNat :=
  Bytes.ofChars_of_ascii fun _ hc ↦ (toNat_of_mem_nth hc).2

theorem display_entry (n : UInt64) : Bytes.display (entry n) = nth n := Bytes.display_ofString _

theorem nth_injective (h : nth m = nth n) : m = n :=
  UInt64.toNat_inj.mp (eq_of_toString_eq ((String.append_right_inj stem).mp h))

theorem entry_injective (h : entry m = entry n) : m = n :=
  nth_injective (by rw [← display_entry m, h, display_entry])

theorem le_toNat_of_mem_entry {b : UInt8} (h : b ∈ entry n) : 48 ≤ b.toNat := by
  rw [entry_eq] at h
  obtain ⟨c, hc, rfl⟩ := List.mem_map.mp h
  obtain ⟨hle, hlt⟩ := toNat_of_mem_nth hc
  rw [UInt8.toNat_ofNat_of_lt' (Nat.lt_trans hlt (by decide))]
  exact hle

theorem length_entry (n : UInt64) : 9 ≤ (entry n).length ∧ (entry n).length < 30 := by
  have hdigits : (Nat.toDigits 10 n.toNat).length ≤ 20 :=
    (Nat.length_toDigits_le_iff (by decide) (by decide)).mpr (Nat.lt_trans n.toNat_lt (by decide))
  have hlength : (entry n).length = 9 + (Nat.toDigits 10 n.toNat).length := by
    rw [entry_eq, List.length_map, toList_nth, List.length_append]
    rfl
  omega

open Posix.FileSystem in
theorem isName_entry (n : UInt64) : IsName (entry n) := by
  have hlength := length_entry n
  refine ⟨?_, ?_, ?_, fun h ↦ ?_, fun h ↦ ?_, hlength.2⟩
  · rintro h
    simp [h] at hlength
  · rintro h
    simp [h, dot] at hlength
  · rintro h
    simp [h, dotDot] at hlength
  · exact absurd (le_toNat_of_mem_entry h) (by decide)
  · exact absurd (le_toNat_of_mem_entry h) (by decide)

end NameGenerator

end MountSweep
