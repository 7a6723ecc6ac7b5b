import MountSweep.NameMap.Files
import MountSweep.Service.Host
import MountSweep.Service.Launcher

namespace MountSweep

open Posix Time

inductive ServiceState
  | starting | active | stopped | killed
  deriving DecidableEq, Repr

namespace ServiceState

def isTerminal : ServiceState → Bool
  | .stopped | .killed => true
  | .starting | .active => false

def name : ServiceState → String
  | .starting => "Starting"
  | .active => "Active"
  | .stopped => "Stopped"
  | .killed => "Killed"

end ServiceState

structure ServiceHandle where
  pid : Pid
  ended : Option Status := none
  src : Path
  mnt : Path
  /-- How long the service keeps directories in its cache, in seconds; zero if it does not. -/
  cacheTimeout : UInt64
  state : ServiceState := .starting
  unmountCommand : List String
  timeouts : TimeoutConfig
  deriving DecidableEq, Repr

def unmountCommandOf (program : String) (args : List String) (path : Path) : Command :=
  { program := Bytes.ofString program, args := args.map Bytes.ofString ++ [path] }

def runUnmount (host : ServiceHost σ) (command : List String) (path : Path) (quiet : Bool) :
    Act σ (Except TeardownError Unit) := do
  let shown := " ".intercalate command
  match command with
  | [] => return .error (.unmountSpawn shown (.stated "empty command"))
  | program :: args =>
    match ← Act.ask (host.execute (unmountCommandOf program args path)
        (if quiet then .discarded else .shown)) with
    | .refused e => return .error (.unmountSpawn shown e)
    | .never => Act.stick .waiting
    | .ended s =>
      if s.isSuccess then return .ok ()
      else return .error (.unmountFailed shown s.display)

namespace ServiceHandle

def poll (host : ServiceHost σ) (h : ServiceHandle) :
    Act σ (Except SystemError (Option Status) × ServiceHandle) := do
  match h.ended with
  | some s => return (.ok (some s), h)
  | none =>
    match ← Act.ask (host.poll h.pid) with
    | .ok (some s) => return (.ok (some s), { h with ended := some s })
    | .ok none => return (.ok none, h)
    | .error e => return (.error e, h)

def isRunning (host : ServiceHost σ) (h : ServiceHandle) : Act σ (Bool × ServiceHandle) := do
  let (polled, h) ← h.poll host
  match polled with
  | .ok none => return (true, h)
  | _ => return (false, h)

def await (host : ServiceHost σ) (h : ServiceHandle) (limit : Option Span) :
    Act σ (Awaited × ServiceHandle) := do
  match h.ended with
  | some s => return (.ended s, h)
  | none =>
    match ← Act.ask (host.await h.pid limit) with
    | .ended s => return (.ended s, { h with ended := some s })
    | a => return (a, h)

def signal (host : ServiceHost σ) (h : ServiceHandle) (s : Signal) : Act σ Unit :=
  if h.ended = none then Act.tell (host.signal h.pid s) else return ()

def kill (host : ServiceHost σ) (h : ServiceHandle) : Act σ ServiceHandle := do
  h.signal host .kill
  let (awaited, h) ← h.await host none
  match awaited with
  | .running => Act.stick .waiting
  | _ => return h

/-- Gets rid of the process unless it has ended: asks it to end, and ends it if it is still there
after the grace period. -/
def reclaim (host : ServiceHost σ) (h : ServiceHandle) : Act σ ServiceHandle := do
  let (polled, h) ← h.poll host
  match polled with
  | .ok (some _) => return h
  | _ =>
    h.signal host .terminate
    let (awaited, h) ← h.await host (some h.timeouts.killGrace)
    match awaited with
    | .running => h.kill host
    | _ => return h

/-- Tears the service down whatever happens: unmounts and gets rid of the process. -/
def cleanup (host : ServiceHost σ) (h : ServiceHandle) : Act σ ServiceHandle := do
  if h.state.isTerminal then return h
  let h := { h with state := .killed }
  let _ ← runUnmount host h.unmountCommand h.mnt true
  h.reclaim host

/-- The checks of a clean teardown, in order: the unmount command succeeds, nothing is mounted
any more, and the process ends in time and with success. -/
def unmount (host : ServiceHost σ) (h : ServiceHandle) :
    Act σ (Except TeardownError Unit × ServiceHandle) := do
  match ← runUnmount host h.unmountCommand h.mnt false with
  | .error e => return (.error e, h)
  | .ok () =>
    if ← Act.ask (host.isMounted h.mnt) then return (.error (.stillMounted h.mnt), h)
    let (awaited, h) ← h.await host (some h.timeouts.stop)
    match awaited with
    | .running => return (.error (.didNotTerminate h.timeouts.stop), h)
    | .failed e => return (.error (.wait e), h)
    | .ended s =>
      if s.isSuccess then return (.ok (), h)
      else return (.error (.abnormal s.code? s.display), h)

def stop (host : ServiceHost σ) (h : ServiceHandle) :
    Act σ (Except TeardownError Unit × ServiceHandle) := do
  if h.state.isTerminal then return (.ok (), h)
  let (verdict, h) ← h.unmount host
  match verdict with
  | .ok () => return (.ok (), { h with state := .stopped })
  | .error e =>
    let h ← h.cleanup host
    return (.error e, h)

/-- What happens to a service that nobody looks after any more: unless it has been torn down,
its process is ended and the unmount command is run. -/
def abandon (host : ServiceHost σ) (h : ServiceHandle) : Act σ Unit := do
  if h.state.isTerminal then return ()
  h.signal host .kill
  match h.unmountCommand with
  | [] => return ()
  | program :: args =>
    match ← Act.ask (host.execute (unmountCommandOf program args h.mnt) .discarded) with
    | .never => Act.stick .waiting
    | _ => return ()

/-- Looks again and again, a poll interval apart, whether the mount is there, the process has
ended or the deadline has passed, at most `rounds` times. -/
def waitReadyFor (host : ServiceHost σ) (deadline : Nat) :
    Nat → ServiceHandle → Act σ (Except SetupError Unit × ServiceHandle)
  | 0, _ => Act.stick .waiting
  | rounds + 1, h => do
    if ← Act.ask (host.isMounted h.mnt) then return (.ok (), h)
    let (polled, h) ← h.poll host
    match polled with
    | .error e => return (.error (.poll e), h)
    | .ok (some s) => return (.error (.prematureExit s.display), h)
    | .ok none =>
      if deadline ≤ host.now (← get) then
        return (.error (.mountTimeout h.mnt h.timeouts.mount), h)
      Act.tell (host.sleep h.timeouts.pollInterval)
      waitReadyFor host deadline rounds h

/-- Waits for the mount. While the clock goes on, the deadline is reached within as many rounds
as there are nanoseconds before it. If the clock cannot express the deadline, nobody looks after
the service any more. -/
def waitReady (host : ServiceHost σ) (h : ServiceHandle) :
    Act σ (Except SetupError Unit × ServiceHandle) := do
  match deadline? (host.now (← get)) h.timeouts.mount with
  | none =>
    h.abandon host
    Act.stick .overflow
  | some deadline => waitReadyFor host deadline (h.timeouts.mount.nanos + 2) h

/-- Waits for the mount of a service that has been launched; without it the service is torn down
again. -/
def settle (host : ServiceHost σ) (h : ServiceHandle) :
    Act σ (Except SetupError Unit × ServiceHandle) := do
  let (ready, h) ← h.waitReady host
  match ready with
  | .error e =>
    let h ← h.cleanup host
    return (.error e, h)
  | .ok () => return (.ok (), { h with state := .active })

end ServiceHandle

namespace ServiceLauncher

def prepare (host : ServiceHost σ) (mode : NameMapMode) (dir : Path) :
    Act σ (Except SystemError Unit) :=
  Act.ask fun s ↦
    let (r, files) := mode.writeMappingFiles dir (host.files s)
    (r, host.setFiles files s)

def launch (host : ServiceHost σ) (l : ServiceLauncher) (v : Variant) (dirs : ServiceDirs) :
    Act σ (Except Error ServiceHandle) := do
  match v.options with
  | .error e => return .error (.config e)
  | .ok options =>
    match ← prepare host options.nameMap dirs.conf with
    | .error e => return .error (.setup (.nameMap dirs.conf e))
    | .ok () =>
      match l.commandLine v dirs with
      | .error e => return .error (.config e)
      | .ok [] => return .error (.setup (.spawn "" (.stated "empty command")))
      | .ok (program :: args) =>
        match ← Act.ask (host.spawn (l.command program args) .captured) with
        | .error e => return .error (.setup (.spawn program e))
        | .ok pid =>
          return .ok
            { pid, src := dirs.src, mnt := dirs.mnt, cacheTimeout := options.cacheTimeout
              unmountCommand := l.service.unmountCommand, timeouts := l.timeouts }

/-- Starts a service and waits for its mount; without it the process is torn down again. -/
def start (host : ServiceHost σ) (l : ServiceLauncher) (v : Variant) (dirs : ServiceDirs) :
    Act σ (Except Error ServiceHandle) := do
  match ← l.launch host v dirs with
  | .error e => return .error e
  | .ok h =>
    match ← h.settle host with
    | (.error e, _) => return .error (.setup e)
    | (.ok (), h) => return .ok h

end ServiceLauncher

end MountSweep
