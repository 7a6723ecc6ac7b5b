import MountSweep.Rehearsal.Interpreter

namespace MountSweep.Rehearsal

open Posix

namespace Machine

def hasEnded (m : Machine) (pid : Pid) : Bool :=
  match m.processes.lookup pid with
  | some p => p.ended.isSome
  | none => true

def hasInput (m : Machine) (p : Process) : Bool :=
  match ((Kernel.availableAt p 0).run m).1 with
  | .nothing => false
  | _ => true

def isReady (m : Machine) (p : Process) : Bool :=
  p.ended.isNone && p.wake ≤ m.clock &&
    match p.task with
    | .sleep => true
    | .utility _ _ reads => !reads || m.hasInput p
    | .shell s =>
      match s.frames with
      | .await pids :: _ => pids.all m.hasEnded
      | .awaitBackground named pids :: _ =>
        !s.pending.isEmpty || (if named then pids.take 1 else pids).all m.hasEnded
      | .readLine .. :: _ => m.hasInput p
      | .gather _ pipe child _ :: _ =>
        match ((Kernel.available (.pipeReader pipe)).run m).1 with
        | .data _ => true
        | .ended => m.hasEnded child
        | .nothing => false
      | _ => true

def turn? (m : Machine) : Option Pid :=
  (m.processes.find? fun (_, p) ↦ m.isReady p).map (·.1)

def nextWake? (m : Machine) : Option Nat :=
  (m.processes.filterMap fun (_, p) ↦
    if p.ended.isNone && m.clock < p.wake then some p.wake else none).min?

def atTime (m : Machine) (clock : Nat) : Machine :=
  { m with clock, files := { m.files with now := m.epoch + clock } }

def rotate (m : Machine) (pid : Pid) : Machine :=
  { m with processes :=
      m.processes.filter (·.1 ≠ pid) ++ m.processes.filter (·.1 = pid) }

end Machine

namespace Kernel

/-- Lets the machine go on until a condition holds or the clock shows `limit`, at most for some
rounds. -/
def runFor (stop : Machine → Bool) (limit : Nat) : Nat → Kernel Unit
  | 0 => return ()
  | rounds + 1 => do
    let m ← get
    if stop m || limit ≤ m.clock then return ()
    match m.turn? with
    | some pid =>
      set (m.rotate pid)
      step pid
      modify fun m ↦ m.atTime (m.clock + stepTime)
    | none => set (m.atTime (min limit ((m.nextWake?).getD limit)))
    runFor stop limit rounds

def runUntil (stop : Machine → Bool) (limit : Nat) : Kernel Unit := do
  runFor stop limit (limit - (← get).clock)

def patience : Nat := 3600 * 1000000000

end Kernel

end MountSweep.Rehearsal
