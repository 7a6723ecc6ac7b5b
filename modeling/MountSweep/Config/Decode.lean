import MountSweep.Config
import MountSweep.Environment.Substitution
import MountSweep.Time.Human
import MountSweep.Yaml.Decode
import MountSweep.Yaml.Document

namespace MountSweep

open Yaml Time Output

def Time.Span.ofNode (n : Node) : Decode Span := do
  match Human.parse? (← n.text).toList with
  | some s => return s
  | none => mismatch (.expected "a duration")

/-- A value of an axis: a truth value, a number of 64 bits without a sign, or a text. -/
def AxisValue.ofNode (n : Node) : Decode AxisValue := do
  match ← n.target with
  | .scalar tag value style =>
    match Scalar.ofTagged? tag value style with
    | some (.bool b) => return .bool b
    | some (.int k) =>
      if 0 ≤ k ∧ k < 0x10000000000000000 then return .int (UInt64.ofNat k.toNat)
      else mismatch (.expected "a value of an axis")
    | some (.text cs) => return .str (String.ofList cs)
    | _ => mismatch (.expected "a value of an axis")
  | _ => mismatch (.expected "a value of an axis")

def Axis.ofNode (n : Node) : Decode Axis := do
  let fs ← n.fields
  return ⟨← required fs "name" Node.text, ← required fs "values" (Node.list AxisValue.ofNode)⟩

def Output.RuleSpec.ofNode (n : Node) : Decode RuleSpec := do
  let fs ← n.fields
  return {
    pattern := ← required fs "pattern" Node.text,
    count := ← fieldOr fs "count" Node.nat64 0,
    literal := ← fieldOr fs "literal" Node.bool false,
    caseInsensitive := ← fieldOr fs "case_insensitive" Node.bool false }

/-- Variables in the order of their names; of two with one name the later counts. -/
def ServiceConfig.sortedVariables (vars : List (String × String)) : List (String × String) :=
  vars.foldl (fun sorted (name, value) ↦
    sorted.takeWhile (·.1 < name) ++
      (name, value) :: (sorted.dropWhile (·.1 < name)).dropWhile (·.1 = name)) []

def ServiceConfig.envOfNode (n : Node) : Decode (List (String × String)) := do
  return ServiceConfig.sortedVariables (← (← n.fields).mapM fun (k, v) ↦ do return (k, ← v.text))

def LoggingConfig.ofNode (n : Node) : Decode LoggingConfig := do
  return { level := ← fieldOr (← n.fields) "level" Node.text "info" }

def ServiceConfig.ofNode (n : Node) : Decode ServiceConfig := do
  let fs ← n.fields
  let d : ServiceConfig := {}
  return {
    binary := ← fieldOr fs "binary" (fun n ↦ do return Bytes.ofString (← n.text)) d.binary,
    host := ← fieldOr fs "host" Node.text d.host,
    wrapper := ← fieldOr fs "wrapper" (Node.list Node.text) d.wrapper,
    unmountCommand := ← fieldOr fs "unmount_command" (Node.list Node.text) d.unmountCommand,
    env := ← fieldOr fs "env" ServiceConfig.envOfNode d.env }

def TimeoutConfig.ofNode (n : Node) : Decode TimeoutConfig := do
  let fs ← n.fields
  let d : TimeoutConfig := {}
  return {
    mount := ← fieldOr fs "mount" Span.ofNode d.mount,
    pollInterval := ← fieldOr fs "poll_interval" Span.ofNode d.pollInterval,
    stop := ← fieldOr fs "stop" Span.ofNode d.stop,
    killGrace := ← fieldOr fs "kill_grace" Span.ofNode d.killGrace,
    failureGrace := ← fieldOr fs "failure_grace" Span.ofNode d.failureGrace,
    outputDrain := ← fieldOr fs "output_drain" Span.ofNode d.outputDrain,
    sshProbe := ← fieldOr fs "ssh_probe" Span.ofNode d.sshProbe }

namespace Config

def ofNode? (n : Node) : Decode Config := do
  let fs ← n.fields
  let d : Config := {}
  return {
    logging := ← fieldOr fs "logging" LoggingConfig.ofNode d.logging,
    service := ← fieldOr fs "service" ServiceConfig.ofNode d.service,
    timeouts := ← fieldOr fs "timeouts" TimeoutConfig.ofNode d.timeouts,
    matrix := ← fieldOr fs "matrix" (Node.list Axis.ofNode) d.matrix,
    falsePositives := ← fieldOr fs "false_positives" (Node.list RuleSpec.ofNode) d.falsePositives }

/-- The configuration that a YAML text describes; a text without a document gives no field. -/
def parse? (text : String) : Except ConfigError Config :=
  match Document.ofText? text.toList with
  | .error fault => .error (.malformed fault.message)
  | .ok none => .ok {}
  | .ok (some d) =>
    match d.decode ofNode? with
    | .error m => .error (.malformed m.message)
    | .ok c => .ok c

/-- The configuration of a text under an environment: references are replaced, the text is read,
and the environment has the last word. -/
def ofText? (env : Environment) (text : String) : Except ConfigError Config := do
  return override env (← parse? (← env.substitute text))

def notUtf8 : String := "stream did not contain valid UTF-8"

def ofFile? (env : Environment) (path : Path) (content : Except Posix.SystemError Bytes) :
    Except ConfigError Config :=
  match content with
  | .error e => .error (.unreadable path e.message)
  | .ok bytes =>
    match Bytes.toString? bytes with
    | some text => ofText? env text
    | none => .error (.unreadable path notUtf8)

end Config

end MountSweep
