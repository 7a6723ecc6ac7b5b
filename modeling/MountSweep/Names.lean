namespace MountSweep

/-- A source of names: a counter of those that it has issued. -/
structure NameGenerator where
  issued : UInt64 := 0
  deriving DecidableEq, Repr, Inhabited

namespace NameGenerator

def stem : String := "testfile_"

def nth (n : UInt64) : String :=
  stem ++ toString n.toNat

/-- Counts one more name, in a single step; the answer is how many there were before. -/
def draw (g : NameGenerator) : UInt64 × NameGenerator :=
  (g.issued, ⟨g.issued + 1⟩)

def next (g : NameGenerator) : String × NameGenerator :=
  let (before, g) := g.draw
  (nth (before + 1), g)

/-- Names from several fresh generators, called one after another by index; calls of a generator
that does not exist give nothing. -/
def issue (generators : List NameGenerator) : List Nat → List String
  | [] => []
  | i :: rest =>
    match generators[i]? with
    | none => issue generators rest
    | some g =>
      let (name, g) := g.next
      name :: issue (generators.set i g) rest

end NameGenerator

end MountSweep
