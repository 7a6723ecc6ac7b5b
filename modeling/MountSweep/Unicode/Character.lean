import MountSweep.Unicode.AgeTable
import MountSweep.Unicode.CategoryTable
import MountSweep.Unicode.ScriptTable
import MountSweep.Unicode.ScriptExtensionTable
import MountSweep.Unicode.BinaryPropertyTable
import MountSweep.Unicode.FoldingTable
import MountSweep.Unicode.LowercaseTable
import MountSweep.Unicode.Lookup

namespace MountSweep.Unicode

/-- The category of the code point `n` on a page of runs, or `default` before the first run. -/
def runCategory (n : Nat) (default : Category) : List (Nat × Category × Category) → Category
  | [] => default
  | (first, even, odd) :: rest =>
    if first ≤ n then runCategory n (if (n - first) % 2 = 0 then even else odd) rest
    else default

def category (c : Char) : Category :=
  let page := lastAtMost c.toNat [] CategoryTable.pages
  runCategory c.toNat .Cn page

def script (c : Char) : Script :=
  lastAtMost c.toNat .unknown (lastAtMost c.toNat [] ScriptTable.pages)

def hasProperty (p : BinaryProperty) (c : Char) : Bool :=
  p.categories.contains (category c) != inRanges c.toNat p.exceptions

/-- The version of the standard that brought a character, as `v / 10` point `v % 10`; `none` if it
is not assigned. -/
def age (c : Char) : Option Nat :=
  if category c = .Cn && !hasProperty .noncharacterCodePoint c then none
  else some (lastAtMost c.toNat 0 (lastAtMost c.toNat [] AgeTable.pages))

/-- The scripts that use a character: its own, unless the standard lists others. -/
def scriptExtensions (c : Char) : List Script :=
  match ScriptExtensionTable.ranges.find? fun r ↦ r.1 ≤ c.toNat && c.toNat ≤ r.2.1 with
  | some (_, _, scripts) => scripts
  | none => [script c]

def isAsciiWord (c : Char) : Bool :=
  c.isAlphanum || c == '_'

/-- Whether a character is part of a word: alphabetic, a mark, a decimal digit, connecting
punctuation or a join control. -/
def isWord (c : Char) : Bool :=
  if c.toNat < 0x80 then isAsciiWord c
  else
    hasProperty .alphabetic c || [.Mn, .Mc, .Me, .Nd, .Pc].contains (category c) ||
      hasProperty .joinControl c

def isDigit (c : Char) : Bool :=
  if c.toNat < 0x80 then c.isDigit else category c == .Nd

def isSpace (c : Char) : Bool :=
  if c.toNat < 0x80 then c == ' ' || (9 ≤ c.toNat && c.toNat ≤ 13)
  else hasProperty .whiteSpace c

/-- Whether a character shows as itself: neither a control, a format character, unassigned nor
private, and of the separators only the blank. -/
def isPrintable (c : Char) : Bool :=
  if c.toNat < 0x80 then 0x20 ≤ c.toNat && c.toNat < 0x7F
  else !([.Cc, .Cf, .Cs, .Co, .Cn, .Zl, .Zp, .Zs].contains (category c))

def isGraphemeExtend (c : Char) : Bool :=
  if c.toNat < 0x80 then false else hasProperty .graphemeExtend c

def fold (c : Char) : Char :=
  if c.toNat < 0x80 then c.toLower
  else Char.ofNat ((c.toNat : Int) + shiftAt c.toNat FoldingTable.runs).toNat

def caseVariants (c : Char) : List Char :=
  let f := fold c
  f :: (sourcesOf f.toNat FoldingTable.runs).map Char.ofNat

def asciiCaseVariants (c : Char) : List Char :=
  if c.isUpper then [c, c.toLower] else if c.isLower then [c, c.toUpper] else [c]

/-- The lower case of a character: one character, but for the capital I with a dot, whose dot
is kept as a combining mark. -/
def lower (c : Char) : List Char :=
  if c.toNat < 0x80 then [c.toLower]
  else if c.toNat == 0x130 then ['i', Char.ofNat 0x307]
  else [Char.ofNat ((c.toNat : Int) + shiftAt c.toNat LowercaseTable.runs).toNat]

def trim (cs : List Char) : List Char :=
  ((cs.dropWhile isSpace).reverse.dropWhile isSpace).reverse

end MountSweep.Unicode
