import MountSweep.Bytes

namespace MountSweep.Bytes

def letters (bs : Bytes) : List Char :=
  bs.map fun b ↦ Char.ofNat b.toNat

def ofLetters (cs : List Char) : Bytes :=
  cs.map fun c ↦ UInt8.ofNat c.toNat

/-- The number that decimal digits write, if they are digits and there are any. -/
def toNat? (bs : Bytes) : Option Nat :=
  if bs = [] then none
  else
    bs.foldl (fun n b ↦ n.bind fun n ↦
      if 48 ≤ b ∧ b ≤ 57 then some (n * 10 + (b.toNat - 48)) else none) (some 0)

def ofNat (n : Nat) : Bytes := ofString (toString n)

def toInt? : Bytes → Option Int
  | 45 :: rest => (toNat? rest).map fun n ↦ -(n : Int)
  | 43 :: rest => (toNat? rest).map Int.ofNat
  | bs => (toNat? bs).map Int.ofNat

end MountSweep.Bytes
