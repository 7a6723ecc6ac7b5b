import MountSweep.Regex.Automaton.Tally
import MountSweep.Bytes

namespace MountSweep.Regex.Automaton

/-- A state of a tree of texts: its transitions, cut at the texts that end here, and those behind
the last end. -/
inductive Tree
  | node (closed : List (List (UInt8 × Tree))) (open_ : List (UInt8 × Tree))
  deriving Inhabited

namespace Tree

def leaf : Tree := .node [] []

def isLeaf : Tree → Bool
  | .node closed open_ => closed.all (·.isEmpty) && open_.isEmpty

def change (b : UInt8) (f : Tree → Tree) : List (UInt8 × Tree) → List (UInt8 × Tree)
  | [] => [(b, f leaf)]
  | (c, t) :: rest =>
    if b < c then (b, f leaf) :: (c, t) :: rest
    else if b = c then (c, f t) :: rest
    else (c, t) :: change b f rest

def insert : Bytes → Tree → Tree
  | [], t@(.node closed open_) =>
    if t.isLeaf && !closed.isEmpty then t else .node (closed ++ [open_]) []
  | b :: bs, .node closed open_ => .node closed (change b (insert bs) open_)

def ofTexts (texts : List Bytes) : Tree := texts.foldl (fun t bs ↦ t.insert bs) leaf

/-- Lays out a state after those behind it. The fuel counts the bytes of the longest text. -/
def layOut : Nat → Tree → Layout Unit
  | 0, _ => addIdle
  | fuel + 1, .node closed open_ => do
    let chunk := fun (transitions : List (UInt8 × Tree)) ↦ do
      for (_, t) in transitions do
        if !t.isLeaf then layOut fuel t
      if transitions.isEmpty then return 0
      else
        let _ ← addState (if transitions.length = 1 then 0 else transitionSize * transitions.length)
        return 1
    let chunks ← (closed ++ [open_]).mapM chunk
    let _ ← addState (alternativeSize * (chunks.sum + closed.length))

end Tree

def textsPart (backwards : Bool) (texts : List Bytes) : Layout Ending := do
  addIdle
  let texts := if backwards then texts.map List.reverse else texts
  let longest := (texts.map List.length).foldl Nat.max 0
  (Tree.ofTexts texts).layOut (longest + 1)
  return .leading

end MountSweep.Regex.Automaton
