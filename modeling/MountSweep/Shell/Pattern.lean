import MountSweep.Text.Letters

namespace MountSweep.Shell

inductive Origin
  | quoted
  | written
  | inserted
  deriving DecidableEq, Repr

structure Glyph where
  byte : UInt8
  origin : Origin
  deriving DecidableEq, Repr

def Glyph.isActive (g : Glyph) (c : Char) : Bool :=
  g.origin ≠ .quoted && g.byte.toNat = c.toNat

inductive PatternPart
  | literal (b : UInt8)
  | any
  | star
  | oneOf (negated : Bool) (ranges : List (UInt8 × UInt8))
  deriving DecidableEq, Repr

namespace Pattern

def ranges : List Glyph → List (UInt8 × UInt8)
  | a :: dash :: b :: rest =>
    if dash.isActive '-' then (a.byte, b.byte) :: ranges rest
    else (a.byte, a.byte) :: ranges (dash :: b :: rest)
  | a :: rest => (a.byte, a.byte) :: ranges rest
  | [] => []

/-- The glyphs up to the closing bracket, and those after it. A bracket in front stands for
itself. -/
def splitBrackets : List Glyph → Option (List Glyph × List Glyph)
  | [] => none
  | g :: rest =>
    match rest.dropWhile (!·.isActive ']') with
    | [] => none
    | _ :: after => some (g :: rest.takeWhile (!·.isActive ']'), after)

def ofGlyphsUpTo : Nat → List Glyph → List PatternPart
  | 0, _ | _, [] => []
  | fuel + 1, g :: rest =>
    if g.isActive '*' then .star :: ofGlyphsUpTo fuel rest
    else if g.isActive '?' then .any :: ofGlyphsUpTo fuel rest
    else if g.isActive '[' then
      let negated := rest.head?.any fun h ↦ h.isActive '!' || h.isActive '^'
      match splitBrackets (if negated then rest.tail else rest) with
      | some (inner, after) => .oneOf negated (ranges inner) :: ofGlyphsUpTo fuel after
      | none => .literal g.byte :: ofGlyphsUpTo fuel rest
    else .literal g.byte :: ofGlyphsUpTo fuel rest

def ofGlyphs (gs : List Glyph) : List PatternPart :=
  ofGlyphsUpTo gs.length gs

def isMatch : List PatternPart → Bytes → Bool
  | [], bs => bs.isEmpty
  | .star :: rest, [] => isMatch rest []
  | .star :: rest, b :: bs => isMatch rest (b :: bs) || isMatch (.star :: rest) bs
  | .literal a :: rest, b :: bs => a = b && isMatch rest bs
  | .any :: rest, _ :: bs => isMatch rest bs
  | .oneOf negated rs :: rest, b :: bs =>
    (rs.any fun (low, high) ↦ low ≤ b && b ≤ high) != negated && isMatch rest bs
  | _ :: _, [] => false
termination_by p bs => p.length + bs.length

/-- Bytes without what a pattern matches at one of their ends: as little or as much as it can. -/
def cut (front longest : Bool) (p : List PatternPart) (bs : Bytes) : Bytes :=
  let lengths := List.range (bs.length + 1)
  let lengths := if longest = front then lengths.reverse else lengths
  let found := lengths.find? fun n ↦
    isMatch p (if front then bs.take n else bs.drop n)
  match found with
  | some n => if front then bs.drop n else bs.take n
  | none => bs

end Pattern

end MountSweep.Shell
