import MountSweep.Environment
import MountSweep.Output.Capture
import MountSweep.Posix.FileSystem.Calls
import MountSweep.Shell.Lexer
import MountSweep.Shell.Parameters
import MountSweep.Rehearsal.Utility.Basic

namespace MountSweep.Rehearsal

open Posix Output Shell

inductive Channel
  | null
  | file (n : Nat)
  | pipeReader (n : Nat)
  | pipeWriter (n : Nat)
  | captured (n : Nat) (s : Stream)
  | shown (s : Stream)
  deriving DecidableEq, Repr

inductive Frame
  /-- Read and run what is left of a script; `last` says that the shell ends with it. -/
  | script (last : Bool) (s : Source)
  | run (c : Shell.Command)
  | gather (c : Shell.Command) (pipe : Nat) (child : Pid) (held : Bytes)
  | runFilled (c : Shell.Command)
  | endCall (args : List Bytes) (bindings : List (Bytes × Option Variable))
  | andThen (c : Shell.Command)
  | orElse (c : Shell.Command)
  | negate
  | test (whileSuccess : Bool) (test body : Shell.Command) (last : Nat)
  | again (whileSuccess : Bool) (test body : Shell.Command)
  | each (name : Bytes) (values : List Bytes) (body : Shell.Command)
  | branch (yes : Shell.Command) (no : Option Shell.Command)
  | restore (saved : List (Nat × Option Channel))
  | await (pids : List Pid)
  /-- Wait for processes that run in the background, unless a signal arrives. Named ones are waited
  for one by one, and it is said how they ended. -/
  | awaitBackground (named : Bool) (pids : List Pid)
  /-- Read a line of input into variables; backslashes in it stand for themselves if `raw`
  holds. -/
  | readLine (raw : Bool) (names : List Bytes) (held : Bytes)
  | resume (status : Nat)
  | leave (status : Nat)

structure ShellState where
  parameters : Parameters
  /-- What is done when a signal arrives; number zero stands for the end of the shell. -/
  traps : List (Nat × Bytes) := []
  pending : List Nat := []
  functions : List (Bytes × Shell.Command) := []
  frames : List Frame := []

inductive Task
  | shell (s : ShellState)
  | utility (name : String) (call : Call) (reads : Bool)
  | sleep

inductive Guardian
  | program
  | process (pid : Pid)
  | nobody
  deriving DecidableEq, Repr

structure Process where
  guardian : Guardian
  ended : Option Status := none
  noticed : Bool := false
  channels : List (Nat × Channel)
  cwd : Ino
  ignored : List Nat := []
  task : Task
  wake : Nat := 0

structure Machine where
  clock : Nat := 0
  epoch : Int := 0
  files : FileSystem
  processes : List (Pid × Process) := []
  nextPid : Pid := 100
  opened : List (Nat × FileSystem.Handle) := []
  pipes : List (Nat × Bytes) := []
  nextChannel : Nat := 0
  captures : List (Nat × Capture) := []
  capture : Nat := 0
  shown : Captured := {}
  environment : Environment := {}

abbrev Kernel := StateM Machine

namespace Kernel

def stepTime : Nat := 1000

def startTime : Nat := 400000

def process? (pid : Pid) : Kernel (Option Process) :=
  return (← get).processes.lookup pid

def change (pid : Pid) (f : Process → Process) : Kernel Unit :=
  modify fun m ↦
    { m with processes := m.processes.map fun (q, p) ↦ if q = pid then (q, f p) else (q, p) }

def changeShell (pid : Pid) (f : ShellState → ShellState) : Kernel Unit :=
  change pid fun p ↦
    match p.task with
    | .shell s => { p with task := .shell (f s) }
    | _ => p

def create (p : Process) : Kernel Pid := do
  let m ← get
  let p := { p with wake := m.clock + startTime }
  set { m with processes := m.processes ++ [(m.nextPid, p)], nextPid := m.nextPid + 1 }
  return m.nextPid

def forget (pid : Pid) : Kernel Unit :=
  modify fun m ↦ { m with processes := m.processes.filter (·.1 ≠ pid) }

/-- Ends a process. Its children go on with nobody to look after them, and those that had ended
are forgotten. -/
def finish (pid : Pid) (status : Status) : Kernel Unit := do
  change pid fun p ↦
    if p.ended.isSome then p else { p with ended := some status, channels := [] }
  modify fun m ↦
    { m with processes := m.processes.filterMap fun (q, p) ↦
        if p.guardian = .process pid then
          if p.ended.isSome then none else some (q, { p with guardian := .nobody })
        else if q = pid ∧ p.guardian = .nobody then none
        else some (q, p) }

def signal (pid : Pid) (s : Signal) : Kernel Unit := do
  match ← process? pid with
  | none => return ()
  | some p =>
    if p.ended.isSome then return ()
    else if s = .kill then finish pid (.signaled s)
    else if s.isHarmless || p.ignored.contains s.number then return ()
    else
      match p.task with
      | .shell t =>
        if (t.traps.lookup s.number).isSome then
          changeShell pid fun t ↦ { t with pending := t.pending ++ [s.number] }
        else finish pid (.signaled s)
      | _ => finish pid (.signaled s)

def isHeld (c : Channel) : Kernel Bool :=
  return (← get).processes.any fun (_, p) ↦ p.ended.isNone && p.channels.any (·.2 = c)

def inspect (p : Process) (f : FileSystem → α) : Kernel α :=
  return f { (← get).files with cwd := p.cwd }

def onFiles (p : Process) (f : FileSystem → Except Errno (α × FileSystem)) :
    Kernel (Except Errno α) := do
  let m ← get
  match f { m.files with cwd := p.cwd } with
  | .error e => return .error e
  | .ok (a, files) =>
    set { m with files := { files with cwd := m.files.cwd } }
    return .ok a

def writeTo (c : Channel) (bs : Bytes) : Kernel (Except Errno Unit) := do
  let m ← get
  match c with
  | .null => return .ok ()
  | .file n =>
    match m.opened.lookup n with
    | none => return .error .badDescriptor
    | some h =>
      match m.files.write h bs with
      | .error e => return .error e
      | .ok (h, files) =>
        set { m with
          files
          opened := m.opened.map fun (k, g) ↦ if k = n then (k, h) else (k, g) }
        return .ok ()
  | .pipeReader _ => return .error .badDescriptor
  | .pipeWriter n =>
    if ← isHeld (.pipeReader n) then
      set { m with pipes := m.pipes.map fun (k, held) ↦
        if k = n then (k, held ++ bs) else (k, held) }
      return .ok ()
    else return .error .brokenPipe
  | .captured n s =>
    match m.captures.lookup n with
    | none => return .error .brokenPipe
    | some capture =>
      if (capture.reader s).finished then return .error .brokenPipe
      set { m with captures := m.captures.map fun (k, old) ↦
        if k = n then (k, capture.receive s bs) else (k, old) }
      return .ok ()
  | .shown s =>
    let shown :=
      match s with
      | .stdout => { m.shown with stdout := m.shown.stdout ++ bs }
      | .stderr => { m.shown with stderr := m.shown.stderr ++ bs }
    set { m with shown }
    return .ok ()

/-- Writes to a descriptor of a process. Writing to a pipe that nobody reads is answered with a
signal. -/
def write (pid : Pid) (descriptor : Nat) (bs : Bytes) : Kernel (Except Errno Unit) := do
  if bs.isEmpty then return .ok ()
  match (← process? pid).bind (·.channels.lookup descriptor) with
  | none => return .error .badDescriptor
  | some c =>
    let r ← writeTo c bs
    match r with
    | .ok () => return r
    | .error e =>
      if e = .brokenPipe then signal pid .pipe
      return r

inductive Available
  | data (bs : Bytes)
  | ended
  | nothing

def available (c : Channel) : Kernel Available := do
  let m ← get
  match c with
  | .file n =>
    match (m.opened.lookup n).map fun h ↦ m.files.readToEnd h.ino h.offset with
    | some (.ok (b :: bs)) => return .data (b :: bs)
    | _ => return .ended
  | .pipeReader n =>
    match m.pipes.lookup n with
    | some (b :: bs) => return .data (b :: bs)
    | _ => return if ← isHeld (.pipeWriter n) then .nothing else .ended
  | _ => return .ended

def consume (c : Channel) (count : Nat) : Kernel Unit :=
  modify fun m ↦
    match c with
    | .file n =>
      { m with opened := m.opened.map fun (k, h) ↦
          if k = n then (k, { h with offset := h.offset + count }) else (k, h) }
    | .pipeReader n =>
      { m with pipes := m.pipes.map fun (k, held) ↦
          if k = n then (k, held.drop count) else (k, held) }
    | _ => m

def availableAt (p : Process) (descriptor : Nat) : Kernel Available := do
  match p.channels.lookup descriptor with
  | some c => available c
  | none => return .ended

def openPipe : Kernel Nat := do
  let m ← get
  set { m with pipes := m.pipes ++ [(m.nextChannel, [])], nextChannel := m.nextChannel + 1 }
  return m.nextChannel

def openFilledPipe (bs : Bytes) : Kernel Nat := do
  let n ← openPipe
  modify fun m ↦ { m with pipes := m.pipes.map fun (k, held) ↦
    if k = n then (k, bs) else (k, held) }
  return n

def openFile (p : Process) (flags : FileSystem.OpenFlags) (path : Path) :
    Kernel (Except Errno Channel) := do
  match ← onFiles p (·.openFile flags path) with
  | .error e => return .error e
  | .ok h =>
    let m ← get
    set { m with opened := m.opened ++ [(m.nextChannel, h)], nextChannel := m.nextChannel + 1 }
    return .ok (.file m.nextChannel)

end Kernel

end MountSweep.Rehearsal
