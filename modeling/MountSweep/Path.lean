import MountSweep.Text.Quoted

namespace MountSweep

abbrev Path := Bytes

namespace Path

def slash : UInt8 := 47

def isAbsolute : Path → Bool
  | [] => false
  | b :: _ => b == slash

/-- `base` continued by `p`: an absolute `p` stands alone, and a slash is put between the two
unless `base` is empty or ends with one. -/
def join (base p : Path) : Path :=
  if isAbsolute p then p
  else if base = [] ∨ base.getLast? = some slash then base ++ p
  else base ++ slash :: p

def joinName (base : Path) (name : String) : Path :=
  base.join (Bytes.ofString name)

def splitFrom (separator : UInt8) (held : Bytes) : Bytes → List Bytes
  | [] => [held]
  | b :: rest =>
    if b = separator then held :: splitFrom separator [] rest
    else splitFrom separator (held ++ [b]) rest

/-- The parts of a byte string between separators, one more than there are separators. -/
def splitAt (separator : UInt8) (bs : Bytes) : List Bytes :=
  splitFrom separator [] bs

def parts (p : Path) : List Bytes :=
  (splitAt slash p).filter (· ≠ [])

def trimEnd : Bytes → Bytes
  | 47 :: rest => trimEnd rest
  | 46 :: 47 :: rest => trimEnd rest
  | p => p

/-- The path of the directory in which a path lies: without its last component. A single dot is no
component unless the path begins with it. -/
def parent (p : Path) : Path :=
  let above := (trimEnd p.reverse).dropWhile (· ≠ slash)
  match trimEnd above with
  | [] => above.take 1
  | up => up.reverse

def display (p : Path) : String :=
  Bytes.display p

def quoted (p : Path) : String :=
  Text.Quoted.ofBytes p

end Path

end MountSweep
