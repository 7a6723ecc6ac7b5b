import MountSweep.Posix.Errno
import MountSweep.Path
import MountSweep.Time.Span
import MountSweep.Output.Stream

namespace MountSweep

open Posix Time

/-- A condition on a configuration that does not hold. -/
inductive Violation
  | missingVariables (names : List String)
  | emptyUnmountCommand
  | emptyHost
  | zeroPollInterval
  | pollIntervalTooLong (pollInterval mount : Span)
  | stated (text : String)
  deriving DecidableEq, Repr

def Violation.message : Violation → String
  | .missingVariables names => "Missing environment variables: " ++ ", ".intercalate names
  | .emptyUnmountCommand => "service.unmount_command cannot be empty"
  | .emptyHost => "service.host cannot be empty"
  | .zeroPollInterval => "timeouts.poll_interval must be positive"
  | .pollIntervalTooLong pollInterval mount =>
    "timeouts.poll_interval (" ++ pollInterval.display ++ ") exceeds timeouts.mount (" ++
      mount.display ++ ")"
  | .stated text => text

inductive ConfigError
  | unreadable (path : Path) (reason : String)
  | malformed (detail : String)
  | violation (v : Violation)
  | duplicateAxis (axis : String)
  | emptyAxis (axis : String)
  | unknownAxis (axis : String)
  | invalidValue (axis value expected : String)
  | invalidPattern (pattern detail : String)
  deriving DecidableEq, Repr

def ConfigError.message : ConfigError → String
  | .unreadable path reason =>
    "Failed to read config file " ++ path.display ++ ": " ++ reason
  | .malformed detail => "Failed to parse config: " ++ detail
  | .violation v => "Configuration validation error: " ++ v.message
  | .duplicateAxis axis => "Axis " ++ Text.Quoted.ofString axis ++ " appears more than once"
  | .emptyAxis axis => "Axis " ++ Text.Quoted.ofString axis ++ " has no values"
  | .unknownAxis axis => "Unknown axis " ++ Text.Quoted.ofString axis
  | .invalidValue axis value expected =>
    "Invalid value " ++ Text.Quoted.ofString value ++ " for axis " ++ Text.Quoted.ofString axis ++
      ": expected " ++ expected
  | .invalidPattern pattern detail =>
    "Invalid output pattern " ++ Text.Quoted.ofString pattern ++ ": " ++ detail

inductive SetupError
  | spawn (binary : String) (source : SystemError)
  | prematureExit (status : String)
  | mountTimeout (path : Path) (after : Span)
  | nameMap (dir : Path) (source : SystemError)
  | poll (source : SystemError)
  deriving DecidableEq, Repr

def SetupError.message : SetupError → String
  | .spawn binary source =>
    "Failed to spawn file system process " ++ binary ++ ": " ++ source.message
  | .prematureExit status => "File system process terminated prematurely (" ++ status ++ ")"
  | .mountTimeout path after =>
    "Mountpoint " ++ path.quoted ++ " failed to come up within " ++ after.display
  | .nameMap dir source =>
    "Failed to prepare identity mapping files in " ++ dir.quoted ++ ": " ++ source.message
  | .poll source => "Failed to poll file system process: " ++ source.message

inductive TeardownError
  | unmountSpawn (command : String) (source : SystemError)
  | unmountFailed (command status : String)
  | stillMounted (path : Path)
  | didNotTerminate (after : Span)
  | abnormal (code : Option Int) (status : String)
  | wait (source : SystemError)
  deriving DecidableEq, Repr

def TeardownError.message : TeardownError → String
  | .unmountSpawn command source =>
    "Failed to run unmount command " ++ Text.Quoted.ofString command ++ ": " ++ source.message
  | .unmountFailed command status =>
    "Unmount command " ++ Text.Quoted.ofString command ++ " exited with " ++ status
  | .stillMounted path => path.quoted ++ " is still a mountpoint after unmount"
  | .didNotTerminate after => "Mount process did not terminate within " ++ after.display
  | .abnormal _ status => "File system process terminated abnormally (" ++ status ++ ")"
  | .wait source => "Failed to wait for file system process: " ++ source.message

inductive ScenarioFailure
  | mismatch (call expected observed : String)
  | callFailed (call : String) (source : SystemError)
  | skip (reason : String)
  | panicked (message : String)
  deriving DecidableEq, Repr

def ScenarioFailure.message : ScenarioFailure → String
  | .mismatch call expected observed =>
    call ++ ": expected " ++ expected ++ ", observed " ++ observed
  | .callFailed call source => call ++ " failed: " ++ source.message
  | .skip reason => reason
  | .panicked message => "scenario panicked: " ++ message

/-- The failure of a scenario that broke off; `payload` is the reason if it is a text. -/
def ScenarioFailure.ofPanic (payload : Option String) : ScenarioFailure :=
  .panicked (payload.getD "non-string panic payload")

/-- Text in the output of a service that no healthy service prints. -/
structure SuspiciousOutput where
  stream : Output.Stream
  found : String
  deriving DecidableEq, Repr

def SuspiciousOutput.message (s : SuspiciousOutput) : String :=
  "Suspicious output to " ++ s.stream.name ++ " (matched " ++ Text.Quoted.ofString s.found ++ ")"

/-- The buckets of a report, in the order in which they are listed. -/
inductive ErrorCategory
  | config | setup | teardown | assertion | surveillance | infrastructure
  deriving DecidableEq, Repr, Ord

namespace ErrorCategory

def all : List ErrorCategory :=
  [.config, .setup, .teardown, .assertion, .surveillance, .infrastructure]

def name : ErrorCategory → String
  | .config => "config"
  | .setup => "setup"
  | .teardown => "teardown"
  | .assertion => "assertion"
  | .surveillance => "surveillance"
  | .infrastructure => "infrastructure"

end ErrorCategory

inductive Error
  | config (e : ConfigError)
  | setup (e : SetupError)
  | teardown (e : TeardownError)
  | assertion (e : ScenarioFailure)
  | surveillance (e : SuspiciousOutput)
  | infrastructure (reason : String)
  | io (e : SystemError)
  deriving DecidableEq, Repr

namespace Error

def message : Error → String
  | .config e => "Configuration error: " ++ e.message
  | .setup e => "Setup failed: " ++ e.message
  | .teardown e => "Teardown failed: " ++ e.message
  | .assertion e => "Assertion failed: " ++ e.message
  | .surveillance e => "Suspicious output: " ++ e.message
  | .infrastructure reason => "Unusable environment: " ++ reason
  | .io e => "I/O error: " ++ e.message

/-- The bucket of an error. An unmount command that cannot be run or fails speaks against the
machine, not against the service. -/
def category : Error → ErrorCategory
  | .config _ => .config
  | .setup _ => .setup
  | .teardown (.unmountSpawn ..) | .teardown (.unmountFailed ..) => .infrastructure
  | .teardown _ => .teardown
  | .assertion _ => .assertion
  | .surveillance _ => .surveillance
  | .infrastructure _ | .io _ => .infrastructure

/-- Whether an error skips its run: the scenario asked for it, or the machine is at fault. -/
def isSkip (e : Error) : Bool :=
  match e with
  | .assertion (.skip _) => true
  | _ => e.category = .infrastructure

end Error

end MountSweep
