import MountSweep.Report
import MountSweep.Scenario.Check
import MountSweep.Service.Host

namespace MountSweep

open Posix Time Output

/-- How urgent a message to the log of a sweep is. -/
inductive LogLevel
  | error
  | warn
  | info
  | debug
  deriving DecidableEq, Repr

/-- The answers of a machine in a state of type `σ` to a sweep. -/
structure SweepHost (σ : Type) extends ServiceHost σ where
  /-- Whether the sweep has the rights of the superuser. -/
  isRoot : σ → Bool
  caller : Scenario.Caller
  /-- Whether the sweep has been asked to stop. -/
  isInterrupted : σ → Bool
  /-- What a scenario finds when it starts, rules aside. -/
  workspace : σ → Scenario.Workspace
  /-- Takes over what a scenario leaves. -/
  resume : Scenario.Workspace → σ → σ
  /-- Makes a fresh directory whose name begins in a certain way. -/
  makeTemporary : String → σ → Except SystemError Path × σ
  /-- Removes a directory with all that is in it. -/
  removeTemporary : Path → σ → σ
  /-- From now on the output of new processes is captured afresh. -/
  openCapture : σ → σ
  /-- What has been captured when both streams have ended, or at the latest after a span. -/
  drain : Span → σ → Captured × σ
  /-- Writes captured output to the streams of the sweep itself. -/
  emit : Captured → σ → σ
  /-- Prints a line. -/
  printLine : String → σ → σ
  /-- Begins to keep a log, with the filter that the environment gives or else with a level. -/
  startLog : Option Bytes → String → σ → σ
  /-- Hands a message to the log, with the module that it is from. Whether and how it is written
  is up to the log, which writes to standard output. -/
  log : LogLevel → String → String → σ → σ

end MountSweep
