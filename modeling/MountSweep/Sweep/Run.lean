import MountSweep.Scenario.Catalogue
import MountSweep.Scenario.Payload
import MountSweep.Service.LifeCycle
import MountSweep.Sweep.Host

namespace MountSweep

open Posix Time Output

structure Sweep where
  config : Config
  matrix : Matrix
  rules : List Rule
  launcher : ServiceLauncher
  dataPath : Path := []
  deriving DecidableEq, Repr

namespace Sweep

def ofConfig? (c : Config) : Except ConfigError Sweep := do
  c.validate
  return { config := c, matrix := ← c.matrix?, rules := ← c.rules?
           launcher := .ofConfig c }

def matrixOf (w : Sweep) (s : Scenario) : Matrix :=
  w.matrix.pin Axis.nameMap (.str s.nameMap.name)

def plan (w : Sweep) (scenarios : List Scenario) : List (Scenario × Variant) :=
  scenarios.flatMap fun s ↦ (w.matrixOf s).variants.map (s, ·)

def runStem : String := "sshfs-test-"

def dataStem : String := "sshfs-data-"

def dataTarget : String := "sshfs_harness::scenario"

def dataWritten (path : Path) : String :=
  "Wrote " ++ toString Payload.content.length ++ " byte data file to " ++ path.quoted

def prepareData (w : Sweep) (host : SweepHost σ) : Act σ (Except SystemError Sweep) := do
  match ← Act.ask (host.makeTemporary dataStem) with
  | .error e => return .error e
  | .ok dir =>
    let path := dir.joinName Payload.fileName
    match (host.files (← get)).save path Payload.content with
    | .error e => return .error (.errno e)
    | .ok files =>
      Act.tell (host.setFiles files)
      Act.tell (host.log .debug dataTarget (dataWritten path))
      return .ok { w with dataPath := path }

def prepare (host : SweepHost σ) (c : Config) : Act σ (Except Error Sweep) := do
  match ofConfig? c with
  | .error e => return .error (.config e)
  | .ok w =>
    match ← w.prepareData host with
    | .error e => return .error (.io e)
    | .ok w => return .ok w

def context (host : SweepHost σ) (w : Sweep) (h : ServiceHandle) : Scenario.Context :=
  { src := h.src, mnt := h.mnt, cacheTimeout := h.cacheTimeout
    dataPath := w.dataPath, data := Payload.content, caller := host.caller }

/-- Runs the body of a scenario with some rules in force; the result comes with the rules that
are in force afterwards. -/
def perform (host : SweepHost σ) (body : Scenario.Body) (ctx : Scenario.Context)
    (rules : Surveillance) : Act σ (Except ScenarioFailure Unit × Surveillance) :=
  Act.ask fun s ↦
    let (result, space) := (body ctx).run { host.workspace s with surveillance := rules }
    ((result, space.surveillance), host.resume space s)

/-- The end of the capture of a run: what was captured is shown and judged under its rules. -/
def conclude (host : SweepHost σ) (drain : Span) (rules : Surveillance) :
    Act σ (List Error) := do
  match deadline? (host.now (← get)) drain with
  | none => Act.stick .overflow
  | some _ =>
    let captured ← Act.ask (host.drain drain)
    Act.tell (host.emit captured)
    match rules.classify captured with
    | .ok () => return []
    | .error e => return [.surveillance e]

/-- The teardown after a body: clean if it succeeded, and otherwise forced, after a while in
which late output may arrive. -/
def tearDown (host : SweepHost σ) (grace : Span) (h : ServiceHandle)
    (result : Except ScenarioFailure Unit) : Act σ (List Error) := do
  match result with
  | .ok () =>
    match ← h.stop host.toServiceHost with
    | (.ok (), _) => return []
    | (.error e, _) => return [.teardown e]
  | .error f =>
    Act.tell (host.sleep grace)
    let _ ← h.cleanup host.toServiceHost
    return [.assertion f]

def executeIn (host : SweepHost σ) (w : Sweep) (s : Scenario) (v : Variant)
    (dirs : ServiceDirs) : Act σ (List Error) := do
  let timeouts := w.launcher.timeouts
  let rules : Surveillance := ⟨w.rules⟩
  Act.tell host.openCapture
  match ← w.launcher.start host.toServiceHost v dirs with
  | .error e =>
    let suspicious ← conclude host timeouts.outputDrain rules
    return e :: suspicious
  | .ok h =>
    let (result, rules) ← perform host s.body (w.context host h) rules
    let errors ← tearDown host timeouts.failureGrace h result
    let suspicious ← conclude host timeouts.outputDrain rules
    return errors ++ suspicious

def execute (host : SweepHost σ) (w : Sweep) (s : Scenario) (v : Variant) :
    Act σ (List Error) := do
  match ← Act.ask (host.makeTemporary runStem) with
  | .error e => return [.io e]
  | .ok root =>
    Act.lastly (host.removeTemporary root) do
      let made ← Act.ask fun s ↦
        let (r, files) := ServiceDirs.createIn root (host.files s)
        (r, host.setFiles files s)
      match made with
      | .error e => return [.io e]
      | .ok dirs => w.executeIn host s v dirs

def runOne (host : SweepHost σ) (w : Sweep) (s : Scenario) (v : Variant) :
    Act σ RunReport := do
  let started := host.now (← get)
  let outcome ←
    if s.requiresRoot && !host.isRoot (← get) then pure (.skipped "Root required")
    else Outcome.ofErrors <$> w.execute host s v
  return ⟨s.testId v, outcome, ⟨host.now (← get) - started⟩⟩

/-- Runs what is planned, in order, until all is done or the sweep is interrupted, printing a
line for each run. -/
def runPlan (host : SweepHost σ) (w : Sweep) : List (Scenario × Variant) → Act σ Report
  | [] => return {}
  | (s, v) :: rest => do
    if host.isInterrupted (← get) then return { notRun := rest.length + 1 }
    let run ← w.runOne host s v
    Act.tell (host.printLine run.display)
    let report ← w.runPlan host rest
    return { report with runs := run :: report.runs }

def runAll (host : SweepHost σ) (w : Sweep) (scenarios : List Scenario) : Act σ Report :=
  w.runPlan host (w.plan scenarios)

end Sweep

end MountSweep
