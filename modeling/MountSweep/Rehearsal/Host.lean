import MountSweep.Posix.FileSystem.MountPoint
import MountSweep.Posix.FileSystem.Temporary
import MountSweep.Rehearsal.Schedule
import MountSweep.Sweep.Host

namespace MountSweep.Rehearsal

open Posix Time Output

/-- How it is found out whether something is mounted. -/
inductive Probe
  | marker
  | never
  | always
  | mountPoint
  deriving DecidableEq, Repr

/-- The name of the file by which a service says that its directory is mounted. -/
def markerName : String := ".ready"

def Probe.holds (probe : Probe) (fs : FileSystem) (p : Path) : Bool :=
  match probe with
  | .marker => !p.contains 0 && (fs.stat true (p.joinName markerName)).toOption.isSome
  | .never => false
  | .always => true
  | .mountPoint => fs.isMountPoint p

namespace Kernel

def channelsOf (sink : Sink) (m : Machine) : List (Nat × Channel) :=
  match sink with
  | .captured => [(0, .null), (1, .captured m.capture .stdout), (2, .captured m.capture .stderr)]
  | .shown => [(0, .null), (1, .shown .stdout), (2, .shown .stderr)]
  | .discarded => [(0, .null), (1, .null), (2, .null)]

def environmentOf (m : Machine) (c : Command) : List (Bytes × Bytes) :=
  let own := c.env.map fun (k, v) ↦ (Bytes.ofString k, v)
  let inherited := m.environment.bindings.map fun (k, v) ↦ (Bytes.ofString k, v)
  inherited.filter (fun (k, _) ↦ (own.lookup k).isNone) ++ own

def zeroByteInCommand : SystemError := .stated "nul byte found in provided data"

/-- Starts a command as a child of the program. A command that says where programs are looked for
may also be a script that does not name its interpreter. -/
def launch (c : Command) (channels : List (Nat × Channel)) : Kernel (Except SystemError Pid) := do
  let m ← get
  let texts := c.program :: c.args ++ c.env.map (·.2)
  if texts.any (·.contains 0) then return .error zeroByteInCommand
  let own := c.env.lookup Environment.searchVariable
  let search := own.orElse fun _ ↦ m.environment.get? Environment.searchVariable
  match Image.find m.files own.isSome search c.program c.args with
  | .error e => return .error (.errno e)
  | .ok i =>
    let pid ← create { guardian := .program, channels, cwd := m.files.cwd, task := .sleep }
    start pid (environmentOf m c) i
    return .ok pid

def reap (pid : Pid) : Kernel (Except SystemError (Option Status)) := do
  match ← process? pid with
  | none => return .error (.errno .noChild)
  | some p =>
    if p.ended.isSome then forget pid
    return .ok p.ended

def await (pid : Pid) (nanos : Nat) : Kernel Awaited := do
  runUntil (·.hasEnded pid) ((← get).clock + nanos)
  match ← reap pid with
  | .error e => return .failed e
  | .ok (some s) => return .ended s
  | .ok none => return .running

def execute (c : Command) (channels : List (Nat × Channel)) : Kernel Execution := do
  match ← launch c channels with
  | .error e => return .refused e
  | .ok pid =>
    match ← await pid patience with
    | .ended s => return .ended s
    | .failed e => return .refused e
    | .running => return .never

/-- Waits until nobody writes to the current capture any more, at most for some time, and closes
it. -/
def drain (nanos : Nat) : Kernel Captured := do
  let m ← get
  let isHeld (m : Machine) : Bool :=
    m.processes.any fun (_, p) ↦
      p.ended.isNone && p.channels.any fun (_, c) ↦
        c = .captured m.capture .stdout || c = .captured m.capture .stderr
  runUntil (fun m ↦ !isHeld m) (m.clock + nanos)
  let capture := ((← get).captures.lookup m.capture).getD {}
  modify fun m ↦ { m with captures := m.captures.map fun (k, c) ↦
    if k = m.capture then (k, c.close) else (k, c) }
  return capture.snapshot

def display (c : Captured) : Kernel Unit :=
  modify fun m ↦
    { m with shown := ⟨m.shown.stdout ++ c.stdout, m.shown.stderr ++ c.stderr⟩ }

end Kernel

/-- A rehearsal: a machine, and what a sweep on it goes by. -/
structure Stage where
  machine : Machine
  probe : Probe := .marker
  names : NameGenerator := {}
  interrupted : Bool := false
  isRoot : Bool := true

namespace Stage

def act (k : Kernel α) (s : Stage) : α × Stage :=
  let (a, machine) := k.run s.machine
  (a, { s with machine })

def tell (k : Kernel Unit) (s : Stage) : Stage := (s.act k).2

/-- A machine that has just been started at a time, with all programs and an empty directory in
which relative paths start. -/
def boot (environment : Environment) (epoch : Stamp) (here : Path) : Stage :=
  { machine :=
      { epoch, files := (FileSystem.fresh programNames epoch).enter here, environment } }

def shown (s : Stage) : Captured := s.machine.shown

/-- Starts a command whose standard output is captured only if `both` holds, and waits for it. -/
def record (both : Bool) (c : Command) (s : Stage) : Execution × Stage :=
  s.act do
    let channels := Kernel.channelsOf .captured (← get)
    Kernel.execute c (if both then channels else Kernel.withChannels channels [(1, .null)])

/-- Waits until the current capture holds `expected`, at most for some time, and tells whether it
does. -/
def awaitSnapshot (expected : Captured) (nanos : Nat) (s : Stage) : Bool × Stage :=
  s.act do
    let holds (m : Machine) : Bool :=
      ((m.captures.lookup m.capture).map Capture.snapshot) = some expected
    Kernel.runUntil holds ((← get).clock + nanos)
    return holds (← get)

def temporaryRoot (s : Stage) : Path :=
  (s.machine.environment.get? "TMPDIR").getD (Bytes.ofString "/tmp")

/-- Takes over what a scenario leaves. The time it has taken passes on the machine, too. -/
def resume (w : Scenario.Workspace) (s : Stage) : Stage :=
  let m := s.machine
  let files := { w.files with now := m.files.now }
  let clock := (w.files.now - m.epoch).toNat
  let (_, machine) := (Kernel.runUntil (fun _ ↦ false) clock).run { m with files }
  { s with machine, names := w.names, interrupted := w.interrupted }

end Stage

def host : SweepHost Stage where
  now s := s.machine.clock
  sleep d s := s.tell do Kernel.runUntil (fun _ ↦ false) ((← get).clock + d.nanos)
  files s := s.machine.files
  setFiles files s := { s with machine := { s.machine with files } }
  isMounted p s := (s.probe.holds s.machine.files p, s)
  spawn c sink s := s.act do Kernel.launch c (Kernel.channelsOf sink (← get))
  poll pid s := s.act (Kernel.reap pid)
  await pid limit s := s.act (Kernel.await pid (limit.elim Kernel.patience Span.nanos))
  signal pid n s := s.tell (Kernel.signal pid n)
  execute c sink s := s.act do Kernel.execute c (Kernel.channelsOf sink (← get))
  isRoot := Stage.isRoot
  caller := {}
  isInterrupted := Stage.interrupted
  workspace s := { files := s.machine.files, names := s.names, interrupted := s.interrupted }
  resume := Stage.resume
  makeTemporary stem s :=
    match s.machine.files.mkdirTemporary s.temporaryRoot (Bytes.ofString stem) with
    | .error e => (.error e, s)
    | .ok (p, files) => (.ok p, { s with machine := { s.machine with files } })
  removeTemporary p s :=
    match s.machine.files.removeAll p with
    | .error _ => s
    | .ok files => { s with machine := { s.machine with files } }
  openCapture := Stage.tell do
    modify fun m ↦
      { m with
        captures := m.captures ++ [(m.nextChannel, {})]
        capture := m.nextChannel
        nextChannel := m.nextChannel + 1 }
  drain d := Stage.act (Kernel.drain d.nanos)
  emit c := Stage.tell (Kernel.display c)
  printLine line := Stage.tell (Kernel.display ⟨Bytes.ofString (line ++ "\n"), []⟩)
  -- a rehearsal keeps no log
  startLog _ _ s := s
  log _ _ _ s := s

end MountSweep.Rehearsal
