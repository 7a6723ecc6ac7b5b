import MountSweep.Regex.Automaton.Literals
import MountSweep.Regex.Automaton.Set
import MountSweep.Regex.Plan

namespace MountSweep.Regex.Plan

open Automaton

def texts? (ps : List Plan) : Option (List Bytes) :=
  ps.mapM fun
    | .text [] => none
    | .text cs => some (textBytes cs)
    | _ => none

/-- One of several parts. The state in front of them is laid out behind the second. -/
def branching : List (Layout Ending) → Layout Ending
  | [] => idle
  | [p] => p
  | p :: q :: rest => do
    let first ← p
    let second ← q
    addIdle
    addIdle
    for e in [first, second] do
      addAlternative
      e.lead
    for r in rest do
      let e ← r
      addAlternative
      e.lead
    return .leading

def optional (p : Layout Ending) : Layout Ending := do
  addIdle
  let e ← p
  addIdle
  addAlternative
  addAlternative
  e.lead
  return .leading

/-- A part any number of times. One that may match the empty text needs a second fork in front. -/
def repeated (p : Layout Ending) (mayBeEmpty : Bool) : Layout Ending := do
  if mayBeEmpty then
    let e ← p
    addIdle
    e.lead
    addAlternative
    addIdle
    addIdle
    for _ in [0:3] do addAlternative
    return .leading
  else
    addIdle
    let e ← p
    addAlternative
    e.lead
    return .forking

def repeatedFrom (p : Layout Ending) (n : Nat) : Layout Ending := do
  let e ← if n = 0 then p else do
    let before ← chainOf p n
    let e ← p
    before.lead
    return e
  addIdle
  e.lead
  addAlternative
  return .forking

def iterated (p : Layout Ending) (mayBeEmpty : Bool) : Nat → Option Nat → Layout Ending
  | 0, some 1 => optional p
  | 0, none => repeated p mayBeEmpty
  | n + 1, none => repeatedFrom p n
  | min, some max => do
    let before ← chainOf p min
    if min < max then
      addIdle
      let e ← optionsFrom p (max - min) before
      e.lead
      return .leading
    else return before

def marked (p : Layout Ending) : Layout Ending := do
  addIdle
  let e ← p
  addIdle
  e.lead
  return .leading

mutual

def layOut (backwards : Bool) : Plan → Layout Ending
  | .text cs => chain ((textBytes cs).map fun _ ↦ idle)
  | .oneOf _ rs => setPart backwards rs
  | .look _ => idle
  | .capture p => if backwards then layOut backwards p else marked (layOut backwards p)
  | .iterate p min max _ => iterated (layOut backwards p) (p.minLength?.all (· = 0)) min max
  | .seq ps =>
    let parts := layOutAll backwards ps
    chain (if backwards then parts.reverse else parts)
  | .choice ps =>
    match texts? ps with
    | some texts => textsPart backwards texts
    | none => branching (layOutAll backwards ps)

def layOutAll (backwards : Bool) : List Plan → List (Layout Ending)
  | [] => []
  | p :: ps => layOut backwards p :: layOutAll backwards ps

end

/-- Lays out what lets a match begin anywhere: any number of bytes, as few as possible. -/
def anywhere : Layout Ending := do
  addIdle
  addIdle
  let _ ← addState transitionSize
  addAlternative
  return .forking

def forwards (p : Plan) : Layout Unit := do
  let before ← if p.beginsWith .textStart then idle else anywhere
  let _ ← marked (p.layOut false)
  addIdle
  before.lead

def backwards (p : Plan) : Layout Unit := do
  let before ← if p.endsWith .textEnd then idle else anywhere
  let e ← p.layOut true
  addIdle
  e.lead
  before.lead

def staysWithin (l : Layout Unit) : Bool := (l.run {}).isSome

def fits (p : Plan) : Bool := staysWithin p.forwards && staysWithin p.backwards

end MountSweep.Regex.Plan
