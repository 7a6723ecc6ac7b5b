import MountSweep.Regex.Ranges

namespace MountSweep.Regex.Automaton

abbrev ByteRange := Nat × Nat

def encoding (n : Nat) : List Nat := (String.utf8EncodeChar (Char.ofNat n)).map UInt8.toNat

/-- Where a range has to be cut for encodings of one length: the last code point of the first
part. -/
def lengthCut? (first last : Nat) : Option Nat :=
  [0x7F, 0x7FF, 0xFFFF].find? fun m ↦ first ≤ m && m < last

/-- Where a range has to be cut for the last bytes of its encodings to run freely, for blocks of a
size: the last code point of the first part. -/
def blockCut? (first last size : Nat) : Option Nat :=
  if first / size = last / size then none
  else if first % size ≠ 0 then some (first / size * size + size - 1)
  else if last % size ≠ size - 1 then some (last / size * size - 1)
  else none

def cut? (first last : Nat) : Option Nat :=
  (lengthCut? first last).or <|
    if last ≤ 0x7F then none else [0x40, 0x1000, 0x40000].findSome? (blockCut? first last)

/-- The sequences of byte ranges that encode a range, in the order of its characters. The fuel
counts cuts. -/
def sequences : Nat → Nat → Nat → List (List ByteRange)
  | 0, _, _ => []
  | fuel + 1, first, last =>
    match cut? first last with
    | some m => sequences fuel first m ++ sequences fuel (m + 1) last
    | none => [(encoding first).zip (encoding last)]

/-- The sequences of byte ranges that encode a set, in the order of its characters. -/
def setSequences (rs : Ranges) : List (List ByteRange) :=
  rs.flatMap fun (first, last) ↦ sequences 32 first last

end MountSweep.Regex.Automaton
