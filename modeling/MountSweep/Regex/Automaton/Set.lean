import MountSweep.Regex.Automaton.Encoding
import MountSweep.Regex.Automaton.Tally

namespace MountSweep.Regex.Automaton

def hashStep (h : UInt64) (n : Nat) : UInt64 := (h ^^^ UInt64.ofNat n) * 0x100000001B3

def hashOf (ns : List Nat) : UInt64 := ns.foldl hashStep 0xCBF29CE484222325

/-- A memory for states: at each place a description and the state it describes. -/
structure Memory where
  places : Array (Option (List Nat × Nat))

namespace Memory

def empty (size : Nat) : Memory := ⟨Array.replicate size none⟩

def place (m : Memory) (key : List Nat) : Nat := (hashOf key).toNat % m.places.size

def find? (m : Memory) (key : List Nat) : Option Nat :=
  match m.places[m.place key]? with
  | some (some (k, n)) => if k = key then some n else none
  | _ => none

def insert (m : Memory) (key : List Nat) (n : Nat) : Memory :=
  ⟨m.places.setIfInBounds (m.place key) (some (key, n))⟩

end Memory

def sharedState (m : Memory) (key : List Nat) (listed : Nat) : Layout (Nat × Memory) := do
  match m.find? key with
  | some n => return (n, m)
  | none =>
    let n ← addState listed
    return (n, m.insert key n)

/-- A state in the making: its transitions, each with its range and target, and the range of the
last one as long as its target is not known. -/
structure Unfinished where
  transitions : List (ByteRange × Nat) := []
  last : Option ByteRange := none

def Unfinished.close (u : Unfinished) (target : Nat) : Unfinished :=
  match u.last with
  | some r => { transitions := u.transitions ++ [(r, target)] }
  | none => u

def Unfinished.key (u : Unfinished) : List Nat :=
  u.transitions.flatMap fun ((low, high), target) ↦ [low, high, target]

def Unfinished.state (m : Memory) (u : Unfinished) : Layout (Nat × Memory) :=
  sharedState m u.key (transitionSize * u.transitions.length)

/-- Finishes the states in the making behind the first `kept + 1`, the deepest first. -/
def finishBehind (end_ kept : Nat) (open_ : List Unfinished) (m : Memory) :
    Layout (List Unfinished × Memory) := do
  let (target, m) ← (open_.drop (kept + 1)).foldr
    (fun u rest ↦ do
      let (target, m) ← rest
      (u.close target).state m) (pure (end_, m))
  return (open_.take kept ++ ((open_.drop kept).take 1).map (·.close target), m)

/-- Takes in a sequence: the states that it has in common with the one before stay in the making. -/
def takeIn (end_ : Nat) (ranges : List ByteRange) (open_ : List Unfinished) (m : Memory) :
    Layout (List Unfinished × Memory) := do
  let common := ((ranges.zip open_).takeWhile fun (r, u) ↦ u.last = some r).length
  let (open_, m) ← finishBehind end_ common open_ m
  match ranges.drop common with
  | [] => return (open_, m)
  | r :: more =>
    let here := ((open_.drop common).head?.getD {})
    return (open_.take common ++ { here with last := some r } ::
      more.map fun r ↦ { last := some r }, m)

def forwardPlaces : Nat := 10000

def setForwards (rs : Ranges) : Layout Ending := do
  let end_ ← addState 0
  let (open_, m) ← (setSequences rs).foldlM
    (fun (open_, m) ranges ↦ takeIn end_ ranges open_ m) ([{}], Memory.empty forwardPlaces)
  let (open_, m) ← finishBehind end_ 0 open_ m
  let _ ← (open_.head?.getD {}).state m
  return .leading

/-- The number of states that are remembered while a set is laid out backwards. -/
def backwardPlaces : Nat := 1000

def setBackwards (rs : Ranges) : Layout Ending := do
  addIdle
  let end_ ← addState 0
  let _ ← (setSequences rs).foldlM
    (fun m ranges ↦ do
      let (_, m) ← ranges.foldlM
        (fun (target, m) (low, high) ↦ sharedState m [target, low, high] 0) (end_, m)
      addAlternative
      return m) (Memory.empty backwardPlaces)
  return .leading

/-- The part that reads a character of a set. Of ASCII sets, all transitions are in one state. -/
def setPart (backwards : Bool) (rs : Ranges) : Layout Ending := do
  if rs.isAscii then
    addIdle
    let _ ← addState (transitionSize * rs.length)
    return .leading
  else if backwards then setBackwards rs
  else setForwards rs

end MountSweep.Regex.Automaton
