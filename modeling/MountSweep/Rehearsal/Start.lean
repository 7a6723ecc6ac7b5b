import MountSweep.Rehearsal.Machine
import MountSweep.Rehearsal.Program

namespace MountSweep.Rehearsal

open Posix Output Shell

inductive Script
  | text (content : Bytes)
  | file (path : Path)
  | input
  deriving DecidableEq, Repr

structure ShellCall where
  script : Script
  name : Bytes
  args : List Bytes
  options : List Char
  deriving DecidableEq, Repr

namespace ShellCall

/-- The letters of the options that a shell accepts beside the one for a script. -/
def switches : List Char :=
  ['e', 'f', 'I', 'i', 'm', 'n', 's', 'x', 'v', 'V', 'E', 'C', 'a', 'b', 'u']

/-- The letters of the options in front of some arguments, and the arguments after them. -/
def splitSwitches : List Bytes → List Char × List Bytes
  | [] => ([], [])
  | a :: rest =>
    match Bytes.letters a with
    | ['-'] | ['-', '-'] => ([], rest)
    | '-' :: c :: cs | '+' :: c :: cs =>
      let (letters, operands) := splitSwitches rest
      (c :: cs ++ letters, operands)
    | _ => ([], a :: rest)

def ofArgs? (called : Bytes) (args : List Bytes) : Except String ShellCall :=
  let (letters, operands) := splitSwitches args
  let options := letters.filter (· ≠ 'c')
  match options.find? fun c ↦ !switches.contains c with
  | some c => .error ("Illegal option -" ++ String.singleton c)
  | none =>
    match letters.contains 'c', operands with
    | true, [] => .error "-c requires an argument"
    | true, text :: rest => .ok ⟨.text text, rest.headD called, rest.tail, options⟩
    | false, [] => .ok ⟨.input, called, [], options⟩
    | false, path :: rest =>
      if letters.contains 's' then .ok ⟨.input, called, operands, options⟩
      else .ok ⟨.file path, path, rest, options⟩

end ShellCall

/-- What a call of the program that changes the environment asks for: the environment, and the
command to run in it. -/
def splitAssignments (env : List (Bytes × Bytes)) :
    List Bytes → List (Bytes × Bytes) × List Bytes
  | [] => (env, [])
  | a :: rest =>
    let name := a.takeWhile (· ≠ 61)
    if a = Bytes.ofString "-i" || a = Bytes.ofString "-" then splitAssignments [] rest
    else if name.length < a.length then
      splitAssignments (env.filter (·.1 ≠ name) ++ [(name, a.drop (name.length + 1))]) rest
    else (env, a :: rest)

def searchName : Bytes := Bytes.ofString Environment.searchVariable

def directoryName : Bytes := Bytes.ofString "PWD"

namespace Kernel

def complain (pid : Pid) (text : Bytes) : Kernel Unit := do
  let _ ← write pid 2 (text ++ [10])

/-- Writes what a utility has written, its messages with a mark in front. The result is the first
error on its standard output. -/
def deliver (pid : Pid) (mark : Bytes) : List (Stream × Bytes) → Kernel (Option Errno)
  | [] => return none
  | (s, bs) :: rest => do
    let failed ←
      match s with
      | .stdout => do
        match ← write pid 1 bs with
        | .error e => pure (some e)
        | .ok () => pure none
      | .stderr => do
        let _ ← write pid 2 (mark ++ bs)
        pure none
    let more ← deliver pid mark rest
    return failed.orElse fun _ ↦ more

/-- Does the work of a utility for a process. The result is its exit code and the first error on
its standard output. -/
def perform (pid : Pid) (mark : Bytes) (work : Work Nat) : Kernel (Nat × Option Errno) := do
  match ← process? pid with
  | none => return (1, none)
  | some p =>
    let m ← get
    let (status, bench) := work.run { files := { m.files with cwd := p.cwd } }
    set { m with files := { bench.files with cwd := m.files.cwd } }
    return (status, ← deliver pid mark bench.written)

def assign (pid : Pid) (task : Task) : Kernel Unit :=
  change pid fun p ↦ { p with task }

def refuse (pid : Pid) (text : Bytes) (status : Nat) : Kernel Unit := do
  complain pid text
  finish pid (.exited status)

def freshShell (pid : Pid) (env : List (Bytes × Bytes)) (here : Path) (c : ShellCall)
    (last : Bool) (content : Bytes) : ShellState :=
  let bindings := env.map fun (k, v) ↦ (k, ({ value := v, exported := true } : Variable))
  let parameters : Parameters :=
    { name := c.name, args := c.args, bindings, pid, options := c.options }
  { parameters := (parameters.set directoryName here).markExported directoryName
    frames := [.script last { rest := Bytes.letters content }] }

def startShell (pid : Pid) (env : List (Bytes × Bytes)) (called : Bytes) (args : List Bytes) :
    Kernel Unit := do
  match ← process? pid with
  | none => return ()
  | some p =>
    let wrong (text : Bytes) : Kernel Unit :=
      refuse pid (message [.inr called, .inl ": 0: ", .inr text]) 2
    match ShellCall.ofArgs? called args with
    | .error text => wrong (Bytes.ofString text)
    | .ok c =>
      let m ← get
      let here := m.files.directoryPath p.cwd
      let here := if here.isEmpty then [Path.slash] else here
      let fresh := freshShell pid env here c
      match c.script with
      | .text content => assign pid (.shell (fresh true content))
      | .input =>
        assign pid (.utility shellName { args := called :: c.args, environment := env } true)
      | .file path =>
        match ← inspect p (·.contents path) with
        | .ok content => assign pid (.shell (fresh false content))
        | .error e =>
          let reason := if e = .noEntry then "No such file" else e.describe
          wrong (message [.inl "cannot open ", .inr path, .inl (": " ++ reason)])

def startInput (pid : Pid) (c : Call) : Kernel Unit := do
  match ← process? pid with
  | none => return ()
  | some p =>
    let here := (← get).files.directoryPath p.cwd
    let call : ShellCall := ⟨.input, c.args.headD [], c.args.tail, []⟩
    assign pid (.shell (freshShell pid c.environment here call false c.input))

def startSleep (pid : Pid) (args : List Bytes) : Kernel Unit := do
  let usage := hint sleepName
  match args, args.filter fun a ↦ (sleepTime? a).isNone with
  | [], _ => refuse pid (Bytes.ofString "sleep: missing operand\n" ++ usage) 1
  | _, [] =>
    let span := (args.filterMap sleepTime?).foldl (· + ·) 0
    let now := (← get).clock
    change pid fun p ↦ { p with task := .sleep, wake := max p.wake now + span }
  | _, wrong =>
    for a in wrong do
      complain pid (message [.inl "sleep: invalid time interval ", .inr (quote a)])
    refuse pid usage 1

def startUpTo : Nat → Pid → List (Bytes × Bytes) → Image → Kernel Unit
  | 0, pid, _, _ => finish pid (.exited 126)
  | depth + 1, pid, env, i => do
    if i.program = shellName then startShell pid env i.called i.args
    else if i.program = sleepName then startSleep pid i.args
    else if i.program = environmentName && !(splitAssignments env i.args).2.isEmpty then
      let (env, command) := splitAssignments env i.args
      match ← process? pid, command with
      | some p, name :: args =>
        match ← inspect p (Image.find · true (env.lookup searchName) name args) with
        | .ok next => startUpTo depth pid env next
        | .error e =>
          refuse pid (cannotRun name e) (if e = .noEntry then 127 else 126)
      | _, _ => finish pid (.exited 0)
    else
      match utilities.lookup i.program with
      | some u =>
        let environment :=
          if i.program = environmentName then (splitAssignments env i.args).1 else env
        assign pid (.utility i.program { args := i.args, environment } (u.reads i.args))
      | none => finish pid (.exited 126)
where
  cannotRun (name : Bytes) (e : Errno) : Bytes :=
    message [.inl (environmentName ++ ": "), .inr (quote name), .inl (": " ++ e.describe)]

def start (pid : Pid) (env : List (Bytes × Bytes)) (i : Image) : Kernel Unit :=
  startUpTo (i.args.length + 2) pid env i

/-- The next turn of a utility: it takes up more of its input, or does its work if there is no
more. -/
def turnUtility (pid : Pid) (p : Process) (name : String) (c : Call) (reads : Bool) :
    Kernel Unit := do
  let input ← if reads then availableAt p 0 else pure .ended
  match input with
  | .nothing => return ()
  | .data bs =>
    if let some channel := p.channels.lookup 0 then consume channel bs.length
    assign pid (.utility name { c with input := c.input ++ bs } reads)
  | .ended =>
    if name = shellName then startInput pid c
    else
      match utilities.lookup name with
      | none => finish pid (.exited 126)
      | some u =>
        match ← perform pid [] (u.work c) with
        | (status, none) => finish pid (.exited status)
        | (status, some e) =>
          complain pid (Bytes.ofString (name ++ ": write error: " ++ e.describe))
          finish pid (.exited (max status 1))

end Kernel

end MountSweep.Rehearsal
