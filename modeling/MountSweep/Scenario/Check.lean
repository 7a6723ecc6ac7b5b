import MountSweep.Names
import MountSweep.Output.Surveillance
import MountSweep.Posix.FileSystem.Guarded
import MountSweep.Time.Span

namespace MountSweep.Scenario

open Posix Time

structure Account where
  name : String
  id : Nat
  group : Nat := 0
  deriving DecidableEq, Repr

/-- On whose behalf scenarios run, and which accounts and groups there are. -/
structure Caller where
  uid : Nat := 0
  gid : Nat := 0
  users : List Account := [⟨"root", 0, 0⟩]
  groups : List Account := [⟨"root", 0, 0⟩]
  deriving DecidableEq, Repr, Inhabited

structure Context where
  src : Path
  mnt : Path
  /-- How long the service keeps directories in its cache, in seconds; zero if it keeps none. -/
  cacheTimeout : UInt64 := 0
  dataPath : Path
  data : Bytes
  caller : Caller := {}
  deriving DecidableEq, Repr

/-- What a scenario works on: the files, the source of names, the flag that asks the sweep to
stop, and the rules for the output of its run. -/
structure Workspace where
  files : FileSystem
  names : NameGenerator := {}
  interrupted : Bool := false
  surveillance : Output.Surveillance := {}
  deriving Repr

abbrev Check (α : Type) := ExceptT ScenarioFailure (StateM Workspace) α

abbrev Body := Context → Check Unit

namespace Check

def run (c : Check α) (w : Workspace) : Except ScenarioFailure α × Workspace :=
  StateT.run (ExceptT.run c) w

def fail (f : ScenarioFailure) : Check α := throw f

def nextName : Check String :=
  modifyGet fun w ↦
    let (name, names) := w.names.next
    (name, { w with names })

def call (c : Output.RegistryCall) : Check (Except ConfigError Unit) :=
  modifyGet fun w ↦
    let (answer, surveillance) := w.surveillance.call c
    (answer, { w with surveillance })

def inspect (call : String) (f : FileSystem → Except SystemError α) : Check α := do
  match f (← get).files with
  | .ok a => return a
  | .error e => fail (.callFailed call e)

def operate (call : String) (f : FileSystem → Except SystemError (α × FileSystem)) :
    Check α := do
  modify fun w ↦ { w with files := w.files.elapse }
  match f (← get).files with
  | .ok (a, files) =>
    modify fun w ↦ { w with files }
    return a
  | .error e => fail (.callFailed call e)

def query (call : String) (p : Path) (f : FileSystem → Except Errno α) : Check α :=
  inspect call fun fs ↦ onPaths [p] zeroByte (f fs)

def change (call : String) (p : Path) (f : FileSystem → Except Errno FileSystem) : Check Unit :=
  operate call fun fs ↦ (onPaths [p] zeroByte (f fs)).map ((), ·)

/-- A call that changes what is at a path and reports a path with the byte zero by a number. -/
def changeBare (call : String) (p : Path) (f : FileSystem → Except Errno FileSystem) :
    Check Unit :=
  operate call fun fs ↦ (onPaths [p] (.errno .invalidArgument) (f fs)).map ((), ·)

def openFile (call : String) (p : Path) (flags : FileSystem.OpenFlags) :
    Check FileSystem.Handle :=
  operate call fun fs ↦ onPaths [p] zeroByte (fs.openFile flags p)

def write (call : String) (h : FileSystem.Handle) (data : Bytes) : Check FileSystem.Handle :=
  operate call fun fs ↦ onPaths [] zeroByte (fs.write h data)

def readOpen (call : String) (h : FileSystem.Handle) : Check Bytes :=
  inspect call fun fs ↦ onPaths [] zeroByte (fs.readToEnd h.ino 0)

def sizeOpen (call : String) (h : FileSystem.Handle) : Check Nat :=
  inspect call fun fs ↦ onPaths [] zeroByte ((fs.statOpen h.ino).map (·.size))

def truncateOpen (call : String) (h : FileSystem.Handle) (length : Nat) : Check Unit :=
  operate call fun fs ↦
    (onPaths [] zeroByte (fs.truncateOpen h.ino length)).map ((), ·)

def expectEq [DecidableEq α] (shown : α → String) (call : String) (expected observed : α) :
    Check Unit :=
  if expected = observed then return ()
  else fail (.mismatch call (shown expected) (shown observed))

def expectNat (call : String) (expected observed : Nat) : Check Unit :=
  expectEq toString call expected observed

def expectInt (call : String) (expected observed : Int) : Check Unit :=
  expectEq toString call expected observed

def expectText (call : String) (expected observed : String) : Check Unit :=
  expectEq Text.Quoted.ofString call expected observed

def expectBool (call : String) (expected observed : Bool) : Check Unit :=
  expectEq (fun b ↦ if b then "true" else "false") call expected observed

def shownBytes (bs : Bytes) : String :=
  "[" ++ ", ".intercalate (bs.map fun b ↦ toString b.toNat) ++ "]"

def expectBytes (call : String) (expected observed : Bytes) : Check Unit :=
  expectEq shownBytes call expected observed

def expectNames (call : String) (expected observed : List String) : Check Unit :=
  expectEq Text.Quoted.ofList call expected observed

def shownOption : Option Int → String
  | some n => "Some(" ++ toString n ++ ")"
  | none => "None"

def expectOption (call : String) (expected observed : Option Int) : Check Unit :=
  expectEq shownOption call expected observed

def expect (call expected : String) (condition : Bool) : Check Unit :=
  if condition then return ()
  else fail (.mismatch call expected "not so")

def lstat (p : Path) : Check FileSystem.Stat :=
  query ("lstat(" ++ p.display ++ ")") p fun fs ↦ fs.stat false p

def contents (p : Path) : Check Bytes :=
  query ("read(" ++ p.display ++ ")") p fun fs ↦ fs.contents p

def createEmpty (p : Path) : Check Unit := do
  let _ ← openFile ("open(" ++ p.display ++ ", O_CREAT | O_RDWR)") p
    { write := true, create := true }

def save (p : Path) (data : Bytes) : Check Unit :=
  change ("write(" ++ p.display ++ ")") p fun fs ↦ fs.save p data

def copy (source target : Path) : Check Unit :=
  operate ("copy to " ++ target.display) fun fs ↦
    (onPaths [source, target] zeroByte do
      let data ← fs.contents source
      let mode := (← fs.stat true source).mode
      let (h, fs) ← fs.openFile { write := true, create := true, truncate := true, mode } target
      let fs := fs.update h.ino fun n ↦
        if n.node.kind = .file then { n with mode } else n
      return (← fs.write h data).2).map ((), ·)

def mkdir (p : Path) : Check Unit :=
  change ("mkdir(" ++ p.display ++ ")") p fun fs ↦ fs.mkdir p

def rmdir (p : Path) : Check Unit :=
  change ("rmdir(" ++ p.display ++ ")") p fun fs ↦ fs.rmdir p

def unlink (p : Path) : Check Unit :=
  change ("unlink(" ++ p.display ++ ")") p fun fs ↦ fs.unlink p

def entries (dir : Path) : Check (List Bytes) :=
  query ("readdir(" ++ dir.display ++ ")") dir fun fs ↦ fs.readdir dir

def isListed (name : String) (dir : Path) : Check Bool := do
  return (← entries dir).contains (Bytes.ofString name)

def sorted (names : List String) : List String :=
  names.mergeSort fun a b ↦ Bytes.isLe (Bytes.ofString a) (Bytes.ofString b)

def listing (dir : Path) : Check (List String) := do
  return sorted ((← entries dir).map Bytes.display)

def listedCall (name : String) (dir : Path) : String :=
  name ++ " listed in " ++ dir.display

def assertListed (name : String) (dir : Path) : Check Unit := do
  expectBool (listedCall name dir) true (← isListed name dir)

def assertNotListed (name : String) (dir : Path) : Check Unit := do
  expectBool (listedCall name dir) false (← isListed name dir)

def missingShown : String := "\"ENOENT\""

/-- Requires that nothing is at a path, and that looking fails for just that reason. -/
def assertNotFound (p : Path) : Check Unit := do
  let call := "lstat(" ++ p.display ++ ")"
  match onPaths [p] zeroByte ((← get).files.stat false p) with
  | .ok _ => fail (.mismatch call missingShown (Text.Quoted.ofString "success"))
  | .error e =>
    if e = .errno .noEntry then return ()
    else fail (.mismatch call missingShown (Text.Quoted.ofString e.message))

/-- The first place at which two byte strings have different bytes; without one, the shorter of
their lengths. -/
def firstDifference (a b : Bytes) : Nat :=
  match (a.zip b).findIdx? fun (x, y) ↦ x ≠ y with
  | some i => i
  | none => min a.length b.length

def assertContent (p : Path) (expected : Bytes) : Check Unit := do
  let observed ← contents p
  if observed = expected then return ()
  else
    fail (.mismatch ("read(" ++ p.display ++ ")") (toString expected.length ++ " bytes")
      (toString observed.length ++ " bytes, first difference at offset " ++
        toString (firstDifference observed expected)))

def assertSameContent (a b : Path) : Check Unit := do
  assertContent a (← contents b)

/-- The longest time for which a clock that counts signed seconds can be asked to wait. -/
def maxSeconds : Nat := 0x8000000000000000

/-- Waits until what the service has cached is out of date, and `margin` seconds more. The wait
has to fit into an unsigned and its end into a signed number of seconds. -/
def waitForCache (ctx : Context) (margin : Nat) : Check Unit := do
  let seconds := ctx.cacheTimeout.toNat + margin
  if ctx.cacheTimeout = 0 then return ()
  else if UInt64.size ≤ seconds then fail (.panicked "attempt to add with overflow")
  else
    let now := (← get).files.now
    if (maxSeconds : Int) * Span.nanosPerSec ≤ now + (Span.ofSecs seconds).nanos then
      fail (.panicked "overflow when adding duration to instant")
    else
      modify fun w ↦
        { w with files := { w.files with now := now + (Span.ofSecs seconds).nanos } }

end Check

end MountSweep.Scenario
