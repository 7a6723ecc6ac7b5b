import MountSweep.Unicode.Segmentation

namespace MountSweep.Unicode

/-- The code points at which the runs of a page begin, and all those of alternating runs. -/
def runStarts : List (Nat × Category × Category) → List Nat
  | [] => []
  | (first, even, odd) :: rest =>
    let next := (rest.head?.map (·.1)).getD (first + 1)
    (if even = odd then [first] else (List.range (next - first)).map (first + ·)) ++ runStarts rest

/-- The ends of closed ranges: their first code points, and those behind their last ones. -/
def ends {α : Type} (ranges : List (Nat × Nat × α)) : List Nat :=
  ranges.flatMap fun (first, last, _) ↦ [first, last + 1]

def casedPoints : List Nat :=
  FoldingTable.runs.flatMap fun (first, last, step, shift) ↦
    (List.range ((last - first) / step + 1)).flatMap fun k ↦
      let n := first + k * step
      [n, ((n : Int) + shift).toNat]

def syllableStarts : List Nat :=
  (List.range 399).flatMap fun k ↦ [0xAC00 + 28 * k, 0xAC00 + 28 * k + 1]

def withoutRepetitions : List Nat → List Nat
  | a :: b :: rest =>
    if a = b then withoutRepetitions (b :: rest) else a :: withoutRepetitions (b :: rest)
  | rest => rest

/-- The code points at which some property may change, in increasing order, up to the end of all
code points. -/
def boundaries : List Nat :=
  let tables :=
    List.range 0x80 ++ [0x80, 0xD800, 0xE000, 0x110000] ++
    runStarts (CategoryTable.pages.flatMap (·.2)) ++
    ScriptTable.pages.flatMap (fun page ↦ page.2.map (·.1)) ++
    AgeTable.pages.flatMap (fun page ↦ page.2.map (·.1)) ++
    BinaryProperty.all.flatMap (fun p ↦ ends (p.exceptions.map fun (a, b) ↦ (a, b, ()))) ++
    ends ScriptExtensionTable.ranges ++ ends BreakTable.grapheme ++ ends BreakTable.word ++
    ends BreakTable.sentence ++ syllableStarts ++ casedPoints.flatMap fun n ↦ [n, n + 1]
  withoutRepetitions (tables.mergeSort (· ≤ ·))

end MountSweep.Unicode
