import MountSweep.CommandLine
import MountSweep.Environment.Substitution
import MountSweep.Rehearsal.Host

namespace MountSweep

open Posix

def programVariables : List String := [
  Environment.binaryVariable, Environment.valgrindVariable, Environment.configVariable,
  Environment.searchVariable]

def referencesOf (text : String) : List String :=
  (Environment.segments text.toList).filterMap fun
    | .char _ => none
    | .reference name => some (String.ofList name)

def rehearsalDirectory : Path := Bytes.ofString "/tmp/rehearsal"

def stageWith (env : Environment) (epoch : Stamp) (given : List (Path × Bytes)) :
    Rehearsal.Stage :=
  let stage := Rehearsal.Stage.boot env epoch rehearsalDirectory
  let files := given.foldl (fun fs (p, content) ↦
    (((fs.mkdirs p.parent).toOption.getD fs).save p content).toOption.getD fs)
    (Rehearsal.host.files stage)
  Rehearsal.host.setFiles files stage

def rehearse (stage : Rehearsal.Stage) (env : Environment) (args : List String) :
    Output.Captured × Nat :=
  let (result, stage) := (CommandLine.run Rehearsal.host env args).run stage
  (stage.shown, result.toOption.getD 1)

def readVariables (names : List String) : IO Environment :=
  names.foldlM (fun env name ↦ do
    match ← IO.getEnv name with
    | some value => return env.set name (Bytes.ofString value)
    | none => return env) {}

def readGiven (name : String) : IO (List (Path × Bytes)) := do
  try
    return [(Bytes.ofString name, (← IO.FS.readBinFile name).toList)]
  catch _ => return []

def givenFiles (args : List String) : IO (List (Path × Bytes)) := do
  match CommandLine.parse args with
  | .ok (.sweep { config := some name, .. }) => readGiven name
  | _ => return []

end MountSweep

open MountSweep in
def main (args : List String) : IO UInt32 := do
  let given ← givenFiles args
  let named := given.flatMap fun (_, content) ↦ referencesOf ((Bytes.toString? content).getD "")
  let env ← readVariables (programVariables ++ named)
  let epoch := Int.ofNat (← IO.monoNanosNow)
  let (shown, code) := rehearse (stageWith env epoch given) env args
  (← IO.getStdout).write ⟨shown.stdout.toArray⟩
  (← IO.getStderr).write ⟨shown.stderr.toArray⟩
  return UInt32.ofNat code
