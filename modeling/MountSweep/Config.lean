import MountSweep.Environment
import MountSweep.Matrix
import MountSweep.Output.Rule

namespace MountSweep

open Time Output

structure LoggingConfig where
  level : String := "info"
  deriving DecidableEq, Repr, Inhabited

structure ServiceConfig where
  binary : Path := Bytes.ofString "build/sshfs"
  host : String := "localhost"
  wrapper : List String := []
  unmountCommand : List String := ["fusermount3", "-z", "-u"]
  env : List (String × String) := []
  deriving DecidableEq, Repr, Inhabited

structure TimeoutConfig where
  mount : Span := .ofSecs 30
  pollInterval : Span := .ofMillis 100
  stop : Span := .ofSecs 30
  killGrace : Span := .ofSecs 1
  failureGrace : Span := .ofSecs 1
  outputDrain : Span := .ofSecs 5
  sshProbe : Span := .ofSecs 10
  deriving DecidableEq, Repr, Inhabited

/-- The message with which a remote shell announces a host that it has just learned of. -/
def knownHostsWarning : String := "Warning: Permanently added .* to the list of known hosts\\."

structure Config where
  logging : LoggingConfig := {}
  service : ServiceConfig := {}
  timeouts : TimeoutConfig := {}
  matrix : List Axis := Matrix.defaultAxes
  falsePositives : List RuleSpec := [{ pattern := knownHostsWarning }]
  deriving DecidableEq, Repr, Inhabited

namespace Config

def valgrindWrapper : List String := ["valgrind", "-q", "--"]

/-- The configuration with what the environment overrides: the path of the service, and the
wrapper if there is none. -/
def override (env : Environment) (c : Config) : Config :=
  let binary :=
    match env.text? Environment.binaryVariable with
    | some s => if s = "" then c.service.binary else Bytes.ofString s
    | none => c.service.binary
  let wrapper :=
    if c.service.wrapper = [] ∧ env.wantsValgrind then valgrindWrapper else c.service.wrapper
  { c with service := { c.service with binary := binary, wrapper := wrapper } }

def builtIn (env : Environment) : Config := override env {}

def matrix? (c : Config) : Except ConfigError Matrix := do
  let m ← Matrix.ofAxes? c.matrix
  m.validate
  return m

def rules? (c : Config) : Except ConfigError (List Rule) :=
  c.falsePositives.mapM Rule.ofSpec?

/-- Refuses a configuration that no sweep can use, for the first reason in order: the matrix, the
rules, the unmount command, the host, and the poll interval. -/
def validate (c : Config) : Except ConfigError Unit := do
  let _ ← c.matrix?
  let _ ← c.rules?
  if c.service.unmountCommand = [] then throw (.violation .emptyUnmountCommand)
  else if c.service.host = "" then throw (.violation .emptyHost)
  else if c.timeouts.pollInterval.nanos = 0 then throw (.violation .zeroPollInterval)
  else if c.timeouts.mount < c.timeouts.pollInterval then
    throw (.violation (.pollIntervalTooLong c.timeouts.pollInterval c.timeouts.mount))
  else return ()

end Config

end MountSweep
