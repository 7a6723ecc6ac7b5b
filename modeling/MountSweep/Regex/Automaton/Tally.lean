import MountSweep.Regex.Fault

namespace MountSweep.Regex.Automaton

def sizeLimit : Nat := 10485760

/-- The states so far, and the bytes that their lists take. -/
structure Tally where
  states : Nat := 0
  listed : Nat := 0
  deriving DecidableEq, Repr

def stateSize : Nat := 32

def transitionSize : Nat := 8

def alternativeSize : Nat := 4

def Tally.memory (t : Tally) : Nat := t.states * stateSize + t.listed

abbrev Layout := StateT Tally Option

def within (t : Tally) : Layout Unit := if t.memory ≤ sizeLimit then set t else failure

def addState (listed : Nat) : Layout Nat := do
  let t ← get
  within { states := t.states + 1, listed := t.listed + listed }
  return t.states

def addAlternative : Layout Unit := do
  let t ← get
  within { t with listed := t.listed + alternativeSize }

def addIdle : Layout Unit := do let _ ← addState 0

/-- How a part of an automaton ends: in a state that leads to one other, or in one with
alternatives, of which whatever follows becomes one more. -/
inductive Ending
  | leading
  | forking
  deriving DecidableEq, Repr

def Ending.lead : Ending → Layout Unit
  | leading => return ()
  | forking => addAlternative

def idle : Layout Ending := do
  addIdle
  return .leading

def chain : List (Layout Ending) → Layout Ending
  | [] => idle
  | p :: rest => do
    rest.foldlM (fun before q ↦ do
      let after ← q
      before.lead
      return after) (← p)

def chainFrom (p : Layout Ending) : Nat → Ending → Layout Ending
  | 0, before => return before
  | n + 1, before => do
    let after ← p
    before.lead
    chainFrom p n after

def chainOf (p : Layout Ending) : Nat → Layout Ending
  | 0 => idle
  | n + 1 => do chainFrom p n (← p)

/-- Up to `n` parts of the same kind behind an ending, with a way out in front of each. -/
def optionsFrom (p : Layout Ending) : Nat → Ending → Layout Ending
  | 0, before => return before
  | n + 1, before => do
    addIdle
    let after ← p
    before.lead
    addAlternative
    addAlternative
    optionsFrom p n after

end MountSweep.Regex.Automaton
