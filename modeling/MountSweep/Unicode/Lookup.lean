namespace MountSweep.Unicode

/-- The value of the last entry whose key is at most `n`, or `default` if there is none, for
keys in increasing order. -/
def lastAtMost {α : Type} (n : Nat) (default : α) : List (Nat × α) → α
  | [] => default
  | (key, value) :: rest => if key ≤ n then lastAtMost n value rest else default

/-- Whether `n` lies in one of the closed ranges, for disjoint ranges in increasing order. -/
def inRanges (n : Nat) : List (Nat × Nat) → Bool
  | [] => false
  | (first, last) :: rest =>
    if n < first then false else if n ≤ last then true else inRanges n rest

def shiftAt (n : Nat) : List (Nat × Nat × Nat × Int) → Int
  | [] => 0
  | (first, last, step, shift) :: rest =>
    if first ≤ n ∧ n ≤ last ∧ (n - first) % step = 0 then shift else shiftAt n rest

/-- The code points that a case map sends to `m`, those apart that it leaves alone. -/
def sourcesOf (m : Nat) (runs : List (Nat × Nat × Nat × Int)) : List Nat :=
  runs.filterMap fun (first, last, step, shift) ↦
    let n := ((m : Int) - shift).toNat
    if first ≤ n ∧ n ≤ last ∧ (n - first) % step = 0 ∧ (n : Int) + shift = m then some n
    else none

end MountSweep.Unicode
