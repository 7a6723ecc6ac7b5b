import MountSweep.Regex.CharSet
import MountSweep.Unicode.Boundaries

namespace MountSweep.Regex

open Unicode

abbrev Ranges := List (Nat × Nat)

namespace Ranges

/-- Ranges in order of their beginnings, joined where they overlap or touch. `(first, last)` is the
range that may still grow. -/
def joinFrom (first last : Nat) : Ranges → Ranges
  | [] => [(first, last)]
  | (a, b) :: rest =>
    if a ≤ last + 1 then joinFrom first (Nat.max last b) rest
    else (first, last) :: joinFrom a b rest

def ofList (rs : List (Nat × Nat)) : Ranges :=
  match rs.mergeSort fun r s ↦ r.1 ≤ s.1 with
  | [] => []
  | (a, b) :: rest => joinFrom a b rest

def gapsFrom (start : Nat) : Ranges → Ranges
  | [] => if start ≤ 0x10FFFF then [(start, 0x10FFFF)] else []
  | (a, b) :: rest =>
    if start < a then (start, a - 1) :: gapsFrom (b + 1) rest else gapsFrom (b + 1) rest

def withoutSurrogates (rs : Ranges) : Ranges :=
  rs.flatMap fun (a, b) ↦
    (if a < 0xD800 then [(a, Nat.min b 0xD7FF)] else []) ++
      (if 0xE000 ≤ b then [(Nat.max a 0xE000, b)] else [])

def compl (rs : Ranges) : Ranges := withoutSurrogates (gapsFrom 0 rs)

def union (rs ss : Ranges) : Ranges := ofList (rs ++ ss)

def inter (rs ss : Ranges) : Ranges := (rs.compl.union ss.compl).compl

def isAscii (rs : Ranges) : Bool := rs.all (·.2 < 0x80)

end Ranges

/-- The stretches between boundaries whose first character satisfies a condition. -/
def stretches (p : Char → Bool) : List Nat → List (Nat × Nat)
  | a :: b :: rest =>
    if a.isValidChar ∧ p (Char.ofNat a) then (a, b - 1) :: stretches p (b :: rest)
    else stretches p (b :: rest)
  | _ => []

namespace CharSet

def ranges : CharSet → Ranges
  | empty => []
  | all => Ranges.compl []
  | single c => [(c.toNat, c.toNat)]
  | range first last =>
    if first ≤ last then Ranges.withoutSurrogates [(first.toNat, last.toNat)] else []
  | foldsLike c => .ofList ((caseVariants c).map fun x ↦ (x.toNat, x.toNat))
  | union a b => a.ranges.union b.ranges
  | inter a b => a.ranges.inter b.ranges
  | diff a b => a.ranges.inter b.ranges.compl
  | compl a => a.ranges.compl
  | folded a =>
    let members := a.ranges
    let variants := casedPoints.filter fun n ↦
      (caseVariants (Char.ofNat n)).any fun x ↦ inRanges x.toNat members
    .ofList (members ++ variants.map fun n ↦ (n, n))
  | asciiFolded a =>
    let members := a.ranges
    let variants := (List.range 0x80).filter fun n ↦
      (asciiCaseVariants (Char.ofNat n)).any fun x ↦ inRanges x.toNat members
    .ofList (members ++ variants.map fun n ↦ (n, n))
  | s => .ofList (stretches s.contains boundaries)

end CharSet

end MountSweep.Regex
