import MountSweep.Path
import MountSweep.Posix.Errno

namespace MountSweep.Posix

abbrev Pid := Nat

structure Signal where
  number : Nat
  deriving DecidableEq, Repr

namespace Signal

def interrupt : Signal := ⟨2⟩

def kill : Signal := ⟨9⟩

def pipe : Signal := ⟨13⟩

def terminate : Signal := ⟨15⟩

def names : List String := [
  "SIGHUP", "SIGINT", "SIGQUIT", "SIGILL", "SIGTRAP", "SIGABRT", "SIGBUS", "SIGFPE", "SIGKILL",
  "SIGUSR1", "SIGSEGV", "SIGUSR2", "SIGPIPE", "SIGALRM", "SIGTERM", "SIGSTKFLT", "SIGCHLD",
  "SIGCONT", "SIGSTOP", "SIGTSTP", "SIGTTIN", "SIGTTOU", "SIGURG", "SIGXCPU", "SIGXFSZ",
  "SIGVTALRM", "SIGPROF", "SIGWINCH", "SIGIO", "SIGPWR", "SIGSYS"]

def meanings : List String := [
  "Hangup", "Interrupt", "Quit", "Illegal instruction", "Trace/breakpoint trap", "Aborted",
  "Bus error", "Floating point exception", "Killed", "User defined signal 1",
  "Segmentation fault", "User defined signal 2", "Broken pipe", "Alarm clock", "Terminated",
  "Stack fault", "Child exited", "Continued", "Stopped (signal)", "Stopped", "Stopped (tty input)",
  "Stopped (tty output)", "Urgent I/O condition", "CPU time limit exceeded",
  "File size limit exceeded", "Virtual timer expired", "Profiling timer expired",
  "Window changed", "I/O possible", "Power failure", "Bad system call"]

def meaning (s : Signal) : String :=
  (if s.number = 0 then none else meanings[s.number - 1]?).getD
    ("Unknown signal " ++ toString s.number)

/-- The signal of a name, with or without the letters that all names begin with, or of a
number. -/
def ofName? (name : String) : Option Signal :=
  match name.toNat? with
  | some n => if n ≤ 64 then some ⟨n⟩ else none
  | none =>
    if name = "EXIT" then some ⟨0⟩
    else (names.findIdx? fun n ↦ n = name || n = "SIG" ++ name).map fun i ↦ ⟨i + 1⟩

def name? (s : Signal) : Option String :=
  if s.number = 0 then none else names[s.number - 1]?

def isHarmless (s : Signal) : Bool :=
  s.number ∈ [0, 17, 18, 23, 28]

end Signal

inductive Status
  | exited (code : Nat)
  | signaled (s : Signal)
  deriving DecidableEq, Repr

namespace Status

def isSuccess : Status → Bool
  | .exited 0 => true
  | _ => false

def code? : Status → Option Int
  | .exited n => some n
  | .signaled _ => none

def display : Status → String
  | .exited n => "exit status: " ++ toString n
  | .signaled s =>
    "signal: " ++ toString s.number ++
      match s.name? with
      | some name => " (" ++ name ++ ")"
      | none => ""

def shellCode : Status → Nat
  | .exited n => n
  | .signaled s => 128 + s.number

theorem isSuccess_iff (s : Status) : s.isSuccess = true ↔ s = .exited 0 := by
  cases s with
  | exited n => cases n <;> simp [isSuccess]
  | signaled s => simp [isSuccess]

end Status

/-- A program to start, its arguments, and the variables that are added to its environment. -/
structure Command where
  program : Bytes
  args : List Bytes := []
  env : List (String × Bytes) := []
  deriving DecidableEq, Repr

end MountSweep.Posix
