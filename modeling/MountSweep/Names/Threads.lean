import Mathlib.Logic.Function.Basic
import MountSweep.Names

namespace MountSweep.NameGenerator

/-- A call by a thread, and the number that was drawn for it. -/
structure Call (Thread Source : Type) where
  thread : Thread
  source : Source
  drawn : UInt64
  deriving DecidableEq, Repr

variable {Thread Source : Type}

def Call.number (c : Call Thread Source) : UInt64 := c.drawn + 1

def Call.name (c : Call Thread Source) : String := nth c.number

/-- The generators, the calls that have drawn a number, and those that have returned; both in
order. -/
structure Calls (Thread Source : Type) where
  generators : Source → NameGenerator := fun _ ↦ {}
  underWay : List (Call Thread Source) := []
  returned : List (Call Thread Source) := []

inductive Move (Thread Source : Type)
  | draw (t : Thread) (g : Source)
  | give (t : Thread) (g : Source)
  deriving DecidableEq, Repr

def Move.source : Move Thread Source → Source
  | .draw _ g => g
  | .give _ g => g

inductive Step [DecidableEq Source] :
    Calls Thread Source → Move Thread Source → Calls Thread Source → Prop
  | draw {s : Calls Thread Source} {t : Thread} (g : Source)
      (idle : ∀ c ∈ s.underWay, c.thread ≠ t) :
      Step s (.draw t g)
        { s with
          generators := Function.update s.generators g (s.generators g).draw.2
          underWay := s.underWay ++ [⟨t, g, (s.generators g).draw.1⟩] }
  | give {s : Calls Thread Source} {before after : List (Call Thread Source)}
      (c : Call Thread Source) (h : s.underWay = before ++ c :: after) :
      Step s (.give c.thread c.source)
        { s with underWay := before ++ after, returned := s.returned ++ [c] }

/-- What some threads have come to, from fresh generators, by steps in the order in which they
happened. -/
inductive Reaches [DecidableEq Source] : List (Move Thread Source) → Calls Thread Source → Prop
  | start : Reaches [] {}
  | step {moves : List (Move Thread Source)} {s s' : Calls Thread Source} {m : Move Thread Source}
      (h : Reaches moves s) (hm : Step s m s') : Reaches (moves ++ [m]) s'

end MountSweep.NameGenerator
