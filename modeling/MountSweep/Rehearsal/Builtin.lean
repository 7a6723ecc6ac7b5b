import MountSweep.Rehearsal.Start

namespace MountSweep.Rehearsal

open Posix Output Shell

inductive Effect
  | done (status : Nat)
  | fatal (text : Bytes)
  | exit (status : Nat)
  | more (frames : List Frame)
  | unwind (count : Nat) (again : Bool)
  | leaveCall (status : Nat)
  | replace (command : List Bytes)

/-- A shell that is about to carry out a command. -/
structure Turn where
  pid : Pid
  process : Process
  shell : ShellState
  mark : Bytes

structure Builtin where
  special : Bool := false
  run : Turn → List Bytes → Kernel Effect

namespace Builtin

open Kernel

def mistake (t : Turn) (text : Bytes) (status : Nat) : Kernel Effect := do
  complain t.pid (t.mark ++ text)
  return .done status

def ofUtility (name : String) (work : Call → Work Nat) : Builtin where
  run t args := do
    let environment := t.shell.parameters.environment
    match ← perform t.pid t.mark (work { args, environment }) with
    | (status, none) => return .done status
    | (_, some _) => mistake t (Bytes.ofString (name ++ ": " ++ name ++ ": I/O error")) 1

def illegalNumber (name : String) (bs : Bytes) : Bytes :=
  message [.inl (name ++ ": Illegal number: "), .inr bs]

def exit (t : Turn) (args : List Bytes) : Kernel Effect :=
  match args with
  | [] => return .exit t.shell.parameters.status
  | a :: _ =>
    match Bytes.toNat? a with
    | some n => return .exit n
    | none => return .fatal (illegalNumber "exit" a)

def signalOf? (args : List Bytes) : Except Bytes (Signal × List Bytes) :=
  let named (name : Bytes) (rest : List Bytes) : Except Bytes (Signal × List Bytes) :=
    match Signal.ofName? (Bytes.display name) with
    | some s => .ok (s, if rest.head? = some [45, 45] then rest.tail else rest)
    | none => .error (message [.inl "kill: invalid signal number or name: ", .inr name])
  match args with
  | [45, 45] :: rest => .ok (.terminate, rest)
  | [45, 115] :: name :: rest => named name rest
  | (45 :: name) :: rest => named name rest
  | _ => .ok (.terminate, args)

def signalAll (t : Turn) (s : Signal) (status : Nat) : List Bytes → Kernel Effect
  | [] => return .done status
  | a :: rest => do
    match Bytes.toNat? a with
    | none => mistake t (illegalNumber "kill" a) 2
    | some pid =>
      if (← process? pid).isSome then
        signal pid s
        signalAll t s status rest
      else
        complain t.pid (t.mark ++ Bytes.ofString "kill: No such process\n")
        signalAll t s 1 rest

def kill (t : Turn) (args : List Bytes) : Kernel Effect := do
  match signalOf? args with
  | .error text => mistake t text 2
  | .ok (_, []) =>
    mistake t (Bytes.ofString ("kill: Usage: kill [-s sigspec | -signum | -sigspec] " ++
      "[pid | job]... or\nkill -l [exitstatus]")) 2
  | .ok (s, pids) => signalAll t s 0 pids

def setTrap (t : Turn) (action : Option Bytes) (n : Nat) : Kernel Unit := do
  changeShell t.pid fun s ↦
    let others := s.traps.filter (·.1 ≠ n)
    match action with
    | some text => { s with traps := if text.isEmpty && n ≠ 0 then others else (n, text) :: others }
    | none => { s with traps := others }
  change t.pid fun p ↦
    let others := p.ignored.filter (· ≠ n)
    { p with ignored := if action = some [] then n :: others else others }

def setTraps (t : Turn) (action : Option Bytes) (status : Nat) : List Bytes → Kernel Effect
  | [] => return .done status
  | name :: rest => do
    match Signal.ofName? (Bytes.display name) with
    | some s =>
      setTrap t action s.number
      setTraps t action status rest
    | none =>
      complain t.pid (message [.inl "trap: ", .inr name, .inl ": bad trap"])
      setTraps t action 1 rest

def trap (t : Turn) (args : List Bytes) : Kernel Effect :=
  match if args.head? = some [45, 45] then args.tail else args with
  | [] => return .done 0
  | [name] => setTraps t none 0 [name]
  | action :: names => setTraps t (if action = [45] then none else some action) 0 names

def formerName : Bytes := Bytes.ofString "OLDPWD"

def cd (t : Turn) (args : List Bytes) : Kernel Effect := do
  let old := t.shell.parameters
  let target :=
    match args with
    | [] => (old.get? (Bytes.ofString "HOME")).getD []
    | a :: _ => if a = [45] then (old.get? formerName).getD [] else a
  let found ← inspect t.process fun fs ↦ do
    let i ← fs.lookup true target
    if fs.isDir i then return i else throw Errno.notDirectory
  match found with
  | .error _ => mistake t (message [.inl "cd: can't cd to ", .inr target]) 2
  | .ok cwd =>
    change t.pid fun p ↦ { p with cwd }
    let here := (← get).files.directoryPath cwd
    let here := if here.isEmpty then [Path.slash] else here
    let left := (old.get? directoryName).getD []
    changeShell t.pid fun s ↦
      let ps := ((s.parameters.set formerName left).markExported formerName)
      { s with parameters := (ps.set directoryName here).markExported directoryName }
    return .done 0

def pwd (t : Turn) (_ : List Bytes) : Kernel Effect := do
  let here := (← get).files.directoryPath t.process.cwd
  let _ ← write t.pid 1 ((if here.isEmpty then [Path.slash] else here) ++ [10])
  return .done 0

def setParameters (t : Turn) (f : Parameters → Parameters) : Kernel Effect := do
  changeShell t.pid fun s ↦ { s with parameters := f s.parameters }
  return .done 0

def splitAssignment (a : Bytes) : Bytes × Option Bytes :=
  let name := a.takeWhile (· ≠ 61)
  (name, if name.length < a.length then some (a.drop (name.length + 1)) else none)

def exportNames (t : Turn) (args : List Bytes) : Kernel Effect :=
  setParameters t fun ps ↦
    args.foldl (fun ps a ↦
      match splitAssignment a with
      | (name, some value) => (ps.set name value).markExported name
      | (name, none) => ps.markExported name) ps

def unset (t : Turn) (args : List Bytes) : Kernel Effect :=
  setParameters t fun ps ↦ (args.filter (·.head? ≠ some 45)).foldl Parameters.unset ps

def setArgs (t : Turn) (args : List Bytes) : Kernel Effect :=
  let change (options : List Char) (a : Bytes) : List Char :=
    match Bytes.letters a with
    | '+' :: cs => options.filter (!cs.contains ·)
    | _ :: cs => options.filter (!cs.contains ·) ++ cs
    | [] => options
  let isSwitch (a : Bytes) : Bool :=
    1 < a.length && a ≠ [45, 45] && (a.head? = some 45 || a.head? = some 43)
  let switches := args.takeWhile isSwitch
  let rest := args.drop switches.length
  setParameters t fun ps ↦
    { ps with
      options := switches.foldl change ps.options
      args :=
        match rest with
        | [] => ps.args
        | a :: more => if a = [45, 45] then more else rest }

def localNames (t : Turn) (args : List Bytes) : Kernel Effect := do
  let isCall (f : Frame) : Bool :=
    match f with
    | .endCall .. => true
    | _ => false
  let names := args.map fun a ↦ (splitAssignment a).1
  let old := names.map fun name ↦ (name, t.shell.parameters.bindings.lookup name)
  let note (f : Frame) : Frame :=
    match f with
    | .endCall before saved => .endCall before (saved ++ old)
    | f => f
  match t.shell.frames.findIdx? isCall with
  | none => return .fatal (Bytes.ofString "local: not in a function")
  | some i =>
    changeShell t.pid fun s ↦ { s with frames := s.frames.modify i note }
    setParameters t fun ps ↦
      args.foldl (fun ps a ↦
        match splitAssignment a with
        | (name, some value) => ps.set name value
        | (_, none) => ps) ps

def returnFrom (t : Turn) (args : List Bytes) : Kernel Effect :=
  match args with
  | [] => return .leaveCall t.shell.parameters.status
  | a :: _ =>
    match Bytes.toNat? a with
    | some n => return .leaveCall n
    | none => return .fatal (illegalNumber "return" a)

def shift (t : Turn) (args : List Bytes) : Kernel Effect :=
  let count :=
    match args with
    | [] => some 1
    | a :: _ => Bytes.toNat? a
  match count with
  | none => return .fatal (illegalNumber "shift" (args.headD []))
  | some n =>
    if t.shell.parameters.args.length < n then
      return .fatal (Bytes.ofString "shift: can't shift that many")
    else setParameters t fun ps ↦ { ps with args := ps.args.drop n }

def wait (t : Turn) (args : List Bytes) : Kernel Effect := do
  let isChild (q : Pid × Process) : Bool := q.2.guardian = .process t.pid
  let children := ((← get).processes.filter isChild).map (·.1)
  match args with
  | [] => return .more [.awaitBackground false children, .resume 0]
  | _ =>
    match (args.mapM Bytes.toNat?) with
    | none => mistake t (illegalNumber "wait" (args.headD [])) 2
    | some pids =>
      if pids.all children.contains then return .more [.awaitBackground true pids]
      else return .done 127

def read (t : Turn) (args : List Bytes) : Kernel Effect :=
  match args.filter (·.head? ≠ some 45) with
  | [] => mistake t (Bytes.ofString "read: arg count") 2
  | names => return .more [.readLine (args.contains (Bytes.ofString "-r")) names []]

def loops (name : String) (again : Bool) (_ : Turn) (args : List Bytes) : Kernel Effect :=
  match args with
  | [] => return .unwind 1 again
  | a :: _ =>
    match Bytes.toNat? a with
    | some (n + 1) => return .unwind (n + 1) again
    | _ => return .fatal (illegalNumber name a)

def eval (_ : Turn) (args : List Bytes) : Kernel Effect :=
  match args with
  | [] => return .done 0
  | _ => return .more [.script false { rest := Bytes.letters ([32].intercalate args) }]

def source (t : Turn) (args : List Bytes) : Kernel Effect := do
  match args with
  | [] => return .done 0
  | path :: _ =>
    match ← inspect t.process (·.contents path) with
    | .ok content => return .more [.script false { rest := Bytes.letters content }]
    | .error _ =>
      return .fatal
        (if path.contains Path.slash then
          message [.inl ".: cannot open ", .inr path, .inl ": No such file"]
        else message [.inl ".: ", .inr path, .inl ": not found"])

def all : List (String × Builtin) := [
  (":", { special := true, run := fun _ _ ↦ return .done 0 }),
  ("true", { run := fun _ _ ↦ return .done 0 }),
  ("false", { run := fun _ _ ↦ return .done 1 }),
  ("echo", ofUtility "echo" shellEcho),
  ("printf", ofUtility "printf" printf),
  ("test", ofUtility "test" test),
  ("[", ofUtility "[" bracket),
  ("exit", { special := true, run := exit }),
  ("exec", { special := true
             run := fun _ args ↦ return if args.isEmpty then .done 0 else .replace args }),
  ("kill", { run := kill }),
  ("trap", { special := true, run := trap }),
  ("cd", { run := cd }),
  ("pwd", { run := pwd }),
  ("export", { special := true, run := exportNames }),
  ("unset", { special := true, run := unset }),
  ("local", { special := true, run := localNames }),
  ("return", { special := true, run := returnFrom }),
  ("set", { special := true, run := setArgs }),
  ("shift", { special := true, run := shift }),
  ("wait", { run := wait }),
  ("read", { run := read }),
  ("break", { special := true, run := loops "break" false }),
  ("continue", { special := true, run := loops "continue" true }),
  ("eval", { special := true, run := eval }),
  (".", { special := true, run := source })]

def describe (t : Turn) (args : List Bytes) : Kernel Effect := do
  match args with
  | [_, name] =>
    let search := t.shell.parameters.get? searchName
    let path ← inspect t.process (Image.locate? · search name)
    let isKnown := (all.lookup (Bytes.display name)).isSome ||
      (t.shell.functions.lookup name).isSome
    match if isKnown then some name else path with
    | some found =>
      let _ ← write t.pid 1 (found ++ [10])
      return .done 0
    | none => return .done 127
  | _ => return .done 0

def wordCommand : Bytes := Bytes.ofString "command"

def ofName? (name : Bytes) : Option Builtin :=
  if name = wordCommand then some { run := describe } else all.lookup (Bytes.display name)

end Builtin

end MountSweep.Rehearsal
