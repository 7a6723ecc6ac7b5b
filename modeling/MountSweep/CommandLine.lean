import MountSweep.Config.Load
import MountSweep.Glob.Pattern
import MountSweep.Preflight
import MountSweep.Sweep.Run

namespace MountSweep.CommandLine

structure Arguments where
  config : Option String := none
  filters : List String := []
  list : Bool := false
  deriving DecidableEq, Repr

inductive Misuse
  | filterWithoutPattern
  | unknownOption (option : String)
  | secondConfig
  deriving DecidableEq, Repr

def Misuse.message : Misuse → String
  | .filterWithoutPattern => "--filter requires a pattern"
  | .unknownOption option => "Unknown option " ++ option
  | .secondConfig => "Only one configuration file may be given"

inductive Request
  | help
  | sweep (a : Arguments)
  deriving DecidableEq, Repr

def parseFrom (a : Arguments) : List String → Except Misuse Request
  | [] => .ok (.sweep a)
  | ["--filter"] => .error .filterWithoutPattern
  | "--filter" :: pattern :: rest => parseFrom { a with filters := a.filters ++ [pattern] } rest
  | arg :: rest =>
    if arg = "-h" ∨ arg = "--help" then .ok .help
    else if arg = "--list" then parseFrom { a with list := true } rest
    else if arg.toList.head? = some '-' then .error (.unknownOption arg)
    else if a.config.isSome then .error .secondConfig
    else parseFrom { a with config := some arg } rest

def parse (args : List String) : Except Misuse Request :=
  parseFrom {} args

def usage : List String := [
  "Usage: sshfs-harness [config.yaml] [--filter GLOB]... [--list]",
  "",
  "sshfs-harness - Integration tests for a mounted sshfs file system",
  "",
  "Arguments:",
  "  config.yaml      Path to configuration file (built-in defaults if omitted)",
  "  --filter GLOB    Only run scenarios whose name matches GLOB (repeatable)",
  "  --list           Print the test IDs that would run, then exit",
  "",
  "Environment:",
  "  SSHFS_BINARY         Path to the sshfs binary under test",
  "  TEST_WITH_VALGRIND   Run sshfs under valgrind unless no/false/0",
  "  RUST_LOG             Log filter, overrides logging.level",
  "",
  "Example:",
  "  sshfs-harness harness.yaml --filter 'truncate_*'"]

def configOf (env : Environment) (files : Posix.FileSystem) (a : Arguments) :
    Except ConfigError Config :=
  match a.config with
  | none => .ok (Config.builtIn env)
  | some path => Config.read? env files (Bytes.ofString path)

/-- The scenarios that some globs select: all without a glob, and otherwise those whose name one
of the globs matches. -/
def select (globs : List Glob) : List Scenario :=
  Scenario.catalogue.filter fun s ↦ globs.isEmpty || globs.any (·.isMatch s.name)

inductive Refusal
  | config (e : ConfigError)
  | filter (f : Glob.Fault)
  | nothingSelected
  | sweep (e : Error)
  deriving DecidableEq, Repr

def Refusal.message : Refusal → String
  | .config e => "Failed to load config: " ++ e.message
  | .filter f => "Invalid filter: " ++ f.message
  | .nothingSelected => "No scenario matches the given filters"
  | .sweep e => "Configuration error: " ++ e.message

def choose (a : Arguments) : Except Refusal (List Scenario) := do
  let globs ← (a.filters.mapM Glob.ofText?).mapError .filter
  match select globs with
  | [] => throw .nothingSelected
  | chosen => return chosen

def complain (host : SweepHost σ) (lines : List String) : Act σ Unit :=
  Act.tell (host.emit ⟨[], lines.flatMap fun l ↦ Bytes.ofString (l ++ "\n")⟩)

def preflight (host : SweepHost σ) (env : Environment) (c : Config) :
    Act σ (Except Error Unit) := do
  let s ← get
  match Preflight.fuse (host.files s) env (host.isRoot s) with
  | .error e => return .error e
  | .ok () => Preflight.ssh host.toServiceHost c.service.host c.timeouts.sshProbe

def logTarget : String := "sshfs_harness"

/-- Does what the arguments ask for, with the sweep `w` of the scenarios `chosen`. -/
def sweep (host : SweepHost σ) (env : Environment) (a : Arguments) (w : Sweep)
    (chosen : List Scenario) : Act σ Nat := do
  if a.list then
    for (s, v) in w.plan chosen do
      Act.tell (host.printLine (s.testId v))
    return 0
  Act.tell (host.log .info logTarget "sshfs-harness starting")
  if let some path := a.config then
    Act.tell (host.log .info logTarget
      ("Loaded configuration from " ++ Path.quoted (Bytes.ofString path)))
  Act.tell (host.log .info logTarget ("Testing " ++ w.config.service.binary.quoted ++ " with " ++
    toString chosen.length ++ " scenario(s)"))
  match ← preflight host env w.config with
  | .error e =>
    Act.tell (host.log .warn logTarget ("Environment cannot host the tests: " ++ e.message))
    Act.tell (host.printLine ("SKIP all: " ++ e.message))
    return 0
  | .ok () =>
    let report ← w.runAll host chosen
    Act.tell (host.printLine report.display)
    if report.isSuccess then return 0
    Act.tell (host.log .error logTarget (toString report.failed ++ " run(s) failed"))
    return 1

def run (host : SweepHost σ) (env : Environment) (args : List String) : Act σ Nat := do
  match parse args with
  | .ok .help =>
    complain host usage
    return 0
  | .error m =>
    complain host (m.message :: usage)
    return 1
  | .ok (.sweep a) =>
    match configOf env (host.files (← get)) a with
    | .error e =>
      complain host [(Refusal.config e).message]
      return 1
    | .ok config =>
      Act.tell (host.startLog (env.get? Environment.logVariable) config.logging.level)
      match choose a with
      | .error r =>
        complain host [r.message]
        return 1
      | .ok chosen =>
        match ← Sweep.prepare host config with
        | .error e =>
          complain host [(Refusal.sweep e).message]
          return 1
        | .ok w => sweep host env a w chosen

end MountSweep.CommandLine
