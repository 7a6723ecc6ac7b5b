namespace MountSweep

abbrev Bytes := List UInt8

namespace Bytes

def ofChars (cs : List Char) : Bytes :=
  cs.flatMap String.utf8EncodeChar

def ofString (s : String) : Bytes :=
  ofChars s.toList

theorem ofChars_append (xs ys : List Char) : ofChars (xs ++ ys) = ofChars xs ++ ofChars ys := by
  simp [ofChars]

/-- Byte-wise order: the first difference decides, and a proper beginning comes first. -/
def isLe : Bytes → Bytes → Bool
  | [], _ => true
  | _ :: _, [] => false
  | a :: as, b :: bs => if a < b then true else if b < a then false else isLe as bs

def toHex (bs : Bytes) : String :=
  String.ofList (bs.flatMap fun b ↦
    [Nat.digitChar (b.toNat / 16), Nat.digitChar (b.toNat % 16)])

end Bytes

end MountSweep
