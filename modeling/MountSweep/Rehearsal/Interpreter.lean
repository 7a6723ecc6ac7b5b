import MountSweep.Rehearsal.Builtin
import MountSweep.Rehearsal.Redirection
import MountSweep.Shell.Grammar

namespace MountSweep.Rehearsal

open Posix Shell

namespace Kernel

def setStatus (pid : Pid) (status : Nat) : Kernel Unit :=
  changeShell pid fun s ↦ { s with parameters := { s.parameters with status } }

def push (pid : Pid) (frames : List Frame) : Kernel Unit :=
  changeShell pid fun s ↦ { s with frames := frames ++ s.frames }

def leave (pid : Pid) (s : ShellState) (status : Nat) : Kernel Unit := do
  match s.traps.lookup 0 with
  | some action =>
    setStatus pid status
    changeShell pid fun s ↦
      { s with
        traps := s.traps.filter (·.1 ≠ 0)
        frames := [.script false { rest := Bytes.letters action }, .leave status] }
  | none => finish pid (.exited (status % 256))

def markOf (s : ShellState) (line : Nat) : Bytes :=
  message [.inr s.parameters.name, .inl (": " ++ toString line ++ ": ")]

def isTested (frames : List Frame) : Bool :=
  frames.any fun
    | .andThen _ | .orElse _ | .negate | .test .. | .branch .. => true
    | _ => false

/-- Sets the status of a command that has come to its end. A shell that stops at failures ends if
it is one. -/
def complete (pid : Pid) (status : Nat) : Kernel Unit := do
  setStatus pid status
  match (← process? pid).map Process.task with
  | some (.shell s) =>
    if status ≠ 0 && s.parameters.options.contains 'e' && !isTested s.frames then
      leave pid s status
  | _ => return ()

def leaveFor (pid : Pid) (s : ShellState) (line : Nat) (text : Bytes) : Kernel Unit := do
  complain pid (markOf s line ++ text)
  leave pid s 2

/-- What becomes of a mistake; it ends the shell if it has to or if `strict` holds. -/
def handle (pid : Pid) (s : ShellState) (line : Nat) (strict : Bool) : Mistake → Kernel Unit
  | .expansion text => leaveFor pid s line (Bytes.ofString text)
  | .redirection text => do
    complain pid (markOf s line ++ text)
    if strict then leave pid s 2 else complete pid 2

def fork (pid : Pid) (p : Process) (s : ShellState) (channels : List (Nat × Channel))
    (frames : List Frame) : Kernel Pid :=
  create
    { guardian := .process pid, channels, cwd := p.cwd, ignored := p.ignored
      task := .shell { parameters := s.parameters, functions := s.functions, frames } }

def withChannels (channels changes : List (Nat × Channel)) : List (Nat × Channel) :=
  changes ++ channels.filter fun (n, _) ↦ (changes.lookup n).isNone

/-- Begins the stages of a pipeline; the first reads from `input`, if there is one. -/
def forkStages (pid : Pid) (p : Process) (s : ShellState) (input : Option Channel) :
    List Shell.Command → Kernel (List Pid)
  | [] => return []
  | [c] => return [← fork pid p s (withChannels p.channels (input.toList.map (0, ·))) [.run c]]
  | c :: rest => do
    let n ← openPipe
    let changes := input.toList.map (0, ·) ++ [(1, .pipeWriter n)]
    let first ← fork pid p s (withChannels p.channels changes) [.run c]
    let others ← forkStages pid p s (some (.pipeReader n)) rest
    return first :: others

def chooseArm (pid : Pid) (value : Bytes) :
    List (List Word × Shell.Command) → Kernel (Except String (Option Shell.Command))
  | [] => return .ok none
  | (words, c) :: rest => do
    match ← expand pid fun _ ↦ words.mapM Word.pattern with
    | .error text => return .error text
    | .ok patterns =>
      if patterns.any (Pattern.isMatch · value) then return .ok (some c)
      else chooseArm pid value rest

def assignAll : List (Bytes × Word) → Expand (List Bytes)
  | [] => return []
  | (name, w) :: rest => do
    let value ← Word.text w
    modify (·.set name value)
    return name :: (← assignAll rest)

def unwind (again : Bool) : Nat → List Frame → List Frame
  | _, [] => []
  | 0, frames => frames
  | n + 1, f :: rest =>
    match f with
    | .restore saved => .restore saved :: unwind again (n + 1) rest
    | .test w t b _ | .again w t b =>
      if again && n = 0 then .again w t b :: rest else unwind again n rest
    | .each name values b =>
      if again && n = 0 then .each name values b :: rest else unwind again n rest
    | _ => unwind again (n + 1) rest

def isInLoop (frames : List Frame) : Bool :=
  frames.any fun
    | .test .. | .again .. | .each .. => true
    | _ => false

def cannotRun (pid : Pid) (s : ShellState) (line : Nat) (name : Bytes) (e : Errno) :
    Kernel Nat := do
  let isMissing := e = .noEntry || e = .notDirectory
  let reason := if isMissing then "not found" else e.describe
  complain pid (markOf s line ++ name ++ Bytes.ofString (": " ++ reason))
  return if isMissing then 127 else 126

def findImage (p : Process) (ps : Parameters) (name : Bytes) (args : List Bytes) :
    Kernel (Except Errno Image) :=
  inspect p fun fs ↦ Image.find fs true (ps.get? searchName) name args

def replace (pid : Pid) (p : Process) (s : ShellState) (line : Nat) (name : Bytes)
    (args : List Bytes) : Kernel Unit := do
  match ← findImage p s.parameters name args with
  | .ok i => start pid s.parameters.environment i
  | .error e =>
    let status ← cannotRun pid s line (Bytes.ofString "exec: " ++ name) e
    leave pid s status

def runProgram (pid : Pid) (line : Nat) (saved : Saved) (ps : Parameters) (name : Bytes)
    (args : List Bytes) : Kernel Unit := do
  match ← process? pid with
  | some p =>
    match p.task with
    | .shell s =>
      match ← findImage p ps name args with
      | .error e =>
        let status ← cannotRun pid s line name e
        putBack pid saved
        complete pid status
      | .ok i =>
        if s.frames.isEmpty && s.traps.isEmpty then start pid ps.environment i
        else
          let child ← create
            { guardian := .process pid, channels := p.channels, cwd := p.cwd
              ignored := p.ignored, task := .sleep }
          start child ps.environment i
          putBack pid saved
          push pid [.await [child]]
    | _ => return ()
  | none => return ()

def unwindCall? : List Frame → Option (List Frame)
  | [] => none
  | .endCall args bindings :: rest => some (.endCall args bindings :: rest)
  | .restore saved :: rest => (unwindCall? rest).map (.restore saved :: ·)
  | _ :: rest => unwindCall? rest

def follow (pid : Pid) (line : Nat) (b : Builtin) (saved : Saved) (e : Effect) : Kernel Unit := do
  match ← process? pid with
  | none => return ()
  | some p =>
    match p.task, e with
    | .shell s, .fatal text =>
      complain pid (markOf s line ++ text)
      putBack pid saved
      if b.special then leave pid s 2 else complete pid 2
    | .shell s, .leaveCall status =>
      putBack pid saved
      match unwindCall? s.frames with
      | some frames =>
        setStatus pid status
        changeShell pid fun s ↦ { s with frames }
      | none => leave pid s status
    | .shell s, .exit status => leave pid s status
    | .shell _, .more frames => push pid (frames ++ [.restore saved])
    | .shell s, .unwind count again =>
      putBack pid saved
      setStatus pid 0
      if isInLoop s.frames then
        changeShell pid fun s ↦ { s with frames := unwind again count s.frames }
    | .shell s, .replace (name :: args) => replace pid p s line name args
    | .shell _, .done status =>
      putBack pid saved
      complete pid status
    | _, _ => return ()

def parameters? (pid : Pid) : Kernel (Option Parameters) := do
  match (← process? pid).map Process.task with
  | some (.shell s) => return some s.parameters
  | _ => return none

def restoreVariables (names : List Bytes) (before ps : Parameters) : Parameters :=
  { ps with bindings :=
      before.bindings.filter (names.contains ·.1) ++
        ps.bindings.filter (!names.contains ·.1) }

def runBuiltin (pid : Pid) (line : Nat) (b : Builtin) (isExec : Bool) (saved : Saved)
    (assigned : List Bytes) (before ps : Parameters) (args : List Bytes) : Kernel Unit := do
  changeShell pid fun s ↦ { s with parameters := ps }
  match ← process? pid with
  | none => return ()
  | some process =>
    match process.task with
    | .shell shell =>
      let effect ← b.run ⟨pid, process, shell, markOf shell line⟩ args
      if !b.special then
        changeShell pid fun s ↦
          { s with parameters := restoreVariables assigned before s.parameters }
      follow pid line b (if isExec then [] else saved) effect
    | _ => return ()

def runFunction (pid : Pid) (saved : Saved) (ps : Parameters) (body : Shell.Command)
    (args : List Bytes) : Kernel Unit := do
  changeShell pid fun s ↦ { s with parameters := { ps with args } }
  push pid [.run body, .endCall ps.args [], .restore saved]

def trace (pid : Pid) (ps : Parameters) (assignments : List (Bytes × Bytes))
    (fields : List Bytes) : Kernel Unit := do
  if ps.options.contains 'x' then
    let parts := assignments.map (fun (name, value) ↦ name ++ 61 :: value) ++ fields
    if !parts.isEmpty then complain pid (Bytes.ofString "+ " ++ [32].intercalate parts)

def withoutWord : List Bytes → List Bytes
  | first :: second :: rest =>
    if first = Builtin.wordCommand && second.head? ≠ some 45 then second :: rest
    else first :: second :: rest
  | fields => fields

/-- Runs a simple command: its words are expanded first, then its redirections are carried out,
then its assignments. A command without words ends with `status`. -/
def runSimple (pid : Pid) (s : ShellState) (status line : Nat)
    (assignments : List (Bytes × Word)) (words : List Word) (redirections : List Redirection) :
    Kernel Unit := do
  match ← expand pid fun fs ↦ Word.allFields fs words with
  | .error text => handle pid s line true (.expansion text)
  | .ok fields =>
    let fields := withoutWord fields
    let function := fields.head?.bind fun name ↦ s.functions.lookup name
    let builtin := if function.isSome then none else fields.head?.bind Builtin.ofName?
    match ← redirect pid [] redirections with
    | .error e => handle pid s line (builtin.any (·.special)) e
    | .ok saved =>
      match ← parameters? pid with
      | none => return ()
      | some before =>
        match (assignAll assignments).run before with
        | .error text => handle pid s line true (.expansion text)
        | .ok (assigned, ps) =>
          trace pid ps (assigned.map fun name ↦ (name, (ps.get? name).getD [])) fields
          let exported := assigned.foldl Parameters.markExported ps
          match fields, function, builtin with
          | [], _, _ =>
            changeShell pid fun s ↦ { s with parameters := ps }
            putBack pid saved
            complete pid status
          | _ :: args, some body, _ => runFunction pid saved exported body args
          | name :: args, _, some b =>
            runBuiltin pid line b (name = Bytes.ofString "exec") saved assigned before
              (if b.special then ps else exported) args
          | name :: args, _, none => runProgram pid line saved exported name args

def startGathering (pid : Pid) (p : Process) (s : ShellState) (c : Shell.Command)
    (text : List Char) : Kernel Unit := do
  let n ← openPipe
  let child ← fork pid p s (withChannels p.channels [(1, .pipeWriter n)])
    [.script true { rest := text }]
  setChannel pid (gatherDescriptor n) (some (.pipeReader n))
  push pid [.gather c n child []]
where
  gatherDescriptor (n : Nat) : Nat := 1000 + n

/-- Gathers output; at its end the command goes on, with the output less the line breaks at its
end. -/
def gather (pid : Pid) (c : Shell.Command) (n : Nat) (child : Pid) (held : Bytes) :
    Kernel Unit := do
  match ← available (.pipeReader n) with
  | .data bs =>
    consume (.pipeReader n) bs.length
    push pid [.gather c n child (held ++ bs)]
  | .nothing => push pid [.gather c n child held]
  | .ended =>
    let ended := (← process? child).bind Process.ended
    forget child
    setChannel pid (startGathering.gatherDescriptor n) none
    setStatus pid (ended.elim 0 Status.shellCode)
    let output := (held.reverse.dropWhile (· = 10)).reverse
    push pid [.runFilled (c.fill output)]

def runCommand (pid : Pid) (p : Process) (s : ShellState) (status : Nat) (c : Shell.Command) :
    Kernel Unit := do
  match c.script? with
  | some text => startGathering pid p s c text
  | none =>
    match c with
    | .simple line assignments words redirections =>
      runSimple pid s status line assignments words redirections
    | .pipeline stages => push pid [.await (← forkStages pid p s none stages)]
    | .negated c => push pid [.run c, .negate]
    | .andThen a b => push pid [.run a, .andThen b]
    | .orElse a b => push pid [.run a, .orElse b]
    | .sequence cs => push pid (cs.map .run)
    | .background c =>
      let child ← fork pid p s (withChannels p.channels [(0, .null)]) [.run c]
      changeShell pid fun s ↦
        { s with parameters := { s.parameters with status := 0, background := some child } }
    | .loop whileSuccess test body => push pid [.run test, .test whileSuccess test body 0]
    | .each name none body =>
      setStatus pid 0
      push pid [.each name s.parameters.args body]
    | .each name (some words) body =>
      match ← expand pid fun fs ↦ Word.allFields fs words with
      | .error text => handle pid s 1 true (.expansion text)
      | .ok values =>
        setStatus pid 0
        push pid [.each name values body]
    | .branch test yes no => push pid [.run test, .branch yes no]
    | .select word arms =>
      match ← expand pid fun _ ↦ Word.text word with
      | .error text => handle pid s 1 true (.expansion text)
      | .ok value =>
        match ← chooseArm pid value arms with
        | .error text => handle pid s 1 true (.expansion text)
        | .ok (some c) => push pid [.run c]
        | .ok none => setStatus pid 0
    | .subshell c =>
      if s.frames.isEmpty && s.traps.isEmpty then push pid [.run c]
      else push pid [.await [← fork pid p s p.channels [.run c]]]
    | .define name body =>
      changeShell pid fun s ↦
        { s with functions := (name, body) :: s.functions.filter (·.1 ≠ name) }
      setStatus pid 0
    | .redirected line c redirections =>
      match ← redirect pid [] redirections with
      | .error e => handle pid s line false e
      | .ok saved => push pid [.run c, .restore saved]

def reportEnd (pid : Pid) : Status → Kernel Unit
  | .signaled s =>
    if s ≠ .interrupt && s ≠ .pipe then complain pid (Bytes.ofString s.meaning) else return ()
  | _ => return ()

def noticeEnded (pid : Pid) : Kernel Unit :=
  modify fun m ↦
    { m with processes := m.processes.map fun (q, p) ↦
        (q, { p with noticed := p.noticed || (p.guardian = .process pid && p.ended.isSome) }) }

/-- Says how the processes ended that were ended by a signal, and how the last of them ended.
Nothing is said of those that were noticed before. -/
def conclude (pid : Pid) (status : Nat) : List Pid → Kernel Nat
  | [] => do
    noticeEnded pid
    return status
  | child :: rest => do
    match ← process? child with
    | some { ended := some ended, noticed, .. } =>
      if !noticed then reportEnd pid ended
      forget child
      conclude pid ended.shellCode rest
    | _ => conclude pid status rest

def endCall (pid : Pid) (args : List Bytes) (bindings : List (Bytes × Option Variable)) :
    Kernel Unit :=
  changeShell pid fun s ↦
    let kept := s.parameters.bindings.filter fun (name, _) ↦
      (bindings.lookup name).isNone
    let old := bindings.reverse.filterMap fun (name, v) ↦ v.map (name, ·)
    { s with parameters := { s.parameters with args, bindings := old ++ kept } }

def collect (status : Nat) : List Pid → Kernel Nat
  | [] => return status
  | child :: rest => do
    match (← process? child).bind Process.ended with
    | some ended =>
      forget child
      collect ended.shellCode rest
    | none => collect status rest

/-- The fields of a line for some variables, the last of which takes what is left. -/
def lineFields (separators : Bytes) : Nat → Bytes → List Bytes
  | 0, _ => []
  | n + 1, bs =>
    let isBlank (b : UInt8) : Bool := isFieldBlank b && separators.contains b
    let bs := bs.dropWhile isBlank
    if n = 0 then [(bs.reverse.dropWhile isBlank).reverse]
    else
      let field := bs.takeWhile (!separators.contains ·)
      let rest := (bs.drop field.length).dropWhile isBlank
      let rest :=
        match rest with
        | b :: more =>
          if separators.contains b && !isFieldBlank b then more else rest
        | [] => []
      field :: lineFields separators n rest

def unprotect : Bytes → Bytes
  | 92 :: b :: rest => b :: unprotect rest
  | b :: rest => b :: unprotect rest
  | [] => []

def assignLine (pid : Pid) (names : List Bytes) (line : Bytes) (status : Nat) : Kernel Unit :=
  changeShell pid fun s ↦
    let fields := names.zip (lineFields s.parameters.separators names.length line)
    let ps := fields.foldl (fun ps (name, value) ↦ ps.set name value) s.parameters
    { s with parameters := { ps with status } }

def readLine (pid : Pid) (p : Process) (raw : Bool) (names : List Bytes) (held : Bytes) :
    Kernel Unit := do
  let finished (line : Bytes) (status : Nat) : Kernel Unit :=
    assignLine pid names (if raw then line else unprotect line) status
  match ← availableAt p 0 with
  | .nothing => push pid [.readLine raw names held]
  | .ended => finished held 1
  | .data bs =>
    let line := bs.takeWhile (· ≠ 10)
    if let some channel := p.channels.lookup 0 then consume channel (line.length + 1)
    if line.length < bs.length then finished (held ++ line) 0
    else push pid [.readLine raw names (held ++ line)]

def runScript (pid : Pid) (s : ShellState) (last : Bool) (source : Source) : Kernel Unit := do
  match nextLine.run source with
  | .error fault => leaveFor pid s fault.line (Bytes.ofString ("Syntax error: " ++ fault.text))
  | .ok (none, _) => return ()
  | .ok (some c, source) =>
    if last && source.rest.isEmpty then push pid [.run c]
    else push pid [.run c, .script last source]

def carryOut (pid : Pid) (p : Process) (s : ShellState) (f : Frame) : Kernel Unit := do
  let status := s.parameters.status
  match f with
  | .script last source => runScript pid s last source
  | .run c => runCommand pid p s 0 c
  | .runFilled c => runCommand pid p s status c
  | .gather c n child held => gather pid c n child held
  | .endCall args bindings => endCall pid args bindings
  | .andThen c => if status = 0 then push pid [.run c]
  | .orElse c => if status ≠ 0 then push pid [.run c]
  | .negate => setStatus pid (if status = 0 then 1 else 0)
  | .test whileSuccess test body last =>
    if (status = 0) = whileSuccess then push pid [.run body, .again whileSuccess test body]
    else setStatus pid last
  | .again whileSuccess test body =>
    push pid [.run test, .test whileSuccess test body status]
  | .each _ [] _ => return ()
  | .each name (value :: rest) body =>
    changeShell pid fun s ↦ { s with parameters := s.parameters.set name value }
    push pid [.run body, .each name rest body]
  | .branch yes no =>
    if status = 0 then push pid [.run yes]
    else
      match no with
      | some c => push pid [.run c]
      | none => setStatus pid 0
  | .restore saved => putBack pid saved
  | .await pids => complete pid (← conclude pid status pids)
  | .awaitBackground named pids =>
    match s.pending, named, pids with
    | n :: _, _, _ => setStatus pid (128 + n)
    | [], true, [child] => complete pid (← conclude pid status [child])
    | [], true, child :: rest =>
      setStatus pid (← conclude pid status [child])
      push pid [.awaitBackground true rest]
    | [], _, _ => complete pid (← collect status pids)
  | .readLine raw names held => readLine pid p raw names held
  | .resume status => setStatus pid status
  | .leave status => leave pid s status

/-- Whether a shell stands before a frame that has to be dealt with before any signal. -/
def isUrgent : List Frame → Bool
  | .await _ :: _ | .awaitBackground .. :: _ | .gather .. :: _ => true
  | _ => false

def stepShell (pid : Pid) (p : Process) (s : ShellState) : Kernel Unit := do
  match s.pending, s.frames with
  | n :: pending, frames =>
    if isUrgent frames then carryFirst frames
    else
      changeShell pid fun s ↦ { s with pending }
      match s.traps.lookup n with
      | some action =>
        push pid [.script false { rest := Bytes.letters action }, .resume s.parameters.status]
      | none => return ()
  | [], frames => carryFirst frames
where
  carryFirst : List Frame → Kernel Unit
    | [] => leave pid s s.parameters.status
    | f :: frames => do
      changeShell pid fun s ↦ { s with frames }
      carryOut pid p { s with frames } f

def step (pid : Pid) : Kernel Unit := do
  match ← process? pid with
  | none => return ()
  | some p =>
    match p.task with
    | .shell s => stepShell pid p s
    | .utility name call reads => turnUtility pid p name call reads
    | .sleep => finish pid (.exited 0)

end Kernel

end MountSweep.Rehearsal
