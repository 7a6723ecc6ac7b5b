import Mathlib.Logic.Function.Basic
import MountSweep.Output.Capture

namespace MountSweep.Output

inductive Ending
  | endOfFile
  | failed
  | aborted
  deriving DecidableEq, Repr

structure DrainTask where
  ahead : Bytes
  held : Bytes := []
  ended : Option Ending := none
  deriving DecidableEq, Repr

inductive DrainStage
  | running
  | awaiting (s : Stream)
  | copying
  | copied (stdout : Bytes)
  | over (c : Captured)
  deriving DecidableEq, Repr

structure Drain where
  task : Stream → DrainTask
  capture : Capture := {}
  stage : DrainStage := .running
  late : Bool := false

inductive DrainMove
  | read (s : Stream) (bs : Bytes)
  | keep (s : Stream) (bs : Bytes)
  | finish (s : Stream) (e : Ending)
  | close
  | expire
  | leave (s : Stream)
  | copy (s : Stream)
  deriving DecidableEq, Repr

namespace Drain

/-- The beginning of a capture of what a process will have written to its streams. -/
def start (written : Stream → Bytes) : Drain where
  task s := { ahead := written s }

def afterLeaving : Stream → DrainStage
  | .stdout => .awaiting .stderr
  | .stderr => .copying

/-- One step of a task or of whoever ends the capture. Between its reading of a chunk and the
handing over a task cannot be stopped; others can take their steps then. -/
inductive Step : Drain → DrainMove → Drain → Prop
  | read {d : Drain} {s : Stream} {bs rest : Bytes} (hended : (d.task s).ended = none)
      (hheld : (d.task s).held = []) (hahead : (d.task s).ahead = bs ++ rest) (hbs : bs ≠ [])
      (hsize : bs.length ≤ chunkSize) :
      Step d (.read s bs)
        { d with task := Function.update d.task s { d.task s with ahead := rest, held := bs } }
  | keep {d : Drain} {s : Stream} {bs : Bytes} (hheld : (d.task s).held = bs) (hbs : bs ≠ []) :
      Step d (.keep s bs)
        { d with
          task := Function.update d.task s { d.task s with held := [] }
          capture := d.capture.step (.chunk s bs) }
  | finish {d : Drain} {s : Stream} {e : Ending} (hended : (d.task s).ended = none)
      (hheld : (d.task s).held = []) (heof : e = .endOfFile → (d.task s).ahead = []) :
      Step d (.finish s e)
        { d with
          task := Function.update d.task s { d.task s with ended := some e }
          capture := d.capture.step (.finish s) }
  | close {d : Drain} (hstage : d.stage = .running) :
      Step d .close { d with stage := .awaiting .stdout }
  | expire {d : Drain} (hstage : d.stage ≠ .running) : Step d .expire { d with late := true }
  | leave {d : Drain} {s : Stream} (hstage : d.stage = .awaiting s)
      (hdone : (d.task s).ended.isSome ∨ d.late = true) :
      Step d (.leave s) { d with stage := afterLeaving s }
  | copyStdout {d : Drain} (hstage : d.stage = .copying) :
      Step d (.copy .stdout) { d with stage := .copied (d.capture.snapshot.bytes .stdout) }
  | copyStderr {d : Drain} {out : Bytes} (hstage : d.stage = .copied out) :
      Step d (.copy .stderr) { d with stage := .over ⟨out, d.capture.snapshot.bytes .stderr⟩ }

/-- What a capture has come to, by steps in the order in which they happened. -/
inductive Reaches (written : Stream → Bytes) : List DrainMove → Drain → Prop
  | start : Reaches written [] (start written)
  | step {moves : List DrainMove} {d d' : Drain} {m : DrainMove} (h : Reaches written moves d)
      (hm : Step d m d') : Reaches written (moves ++ [m]) d'

end Drain

end MountSweep.Output
