import MountSweep.Posix.FileSystem.Calls
import MountSweep.Posix.Process
import MountSweep.Time.Span

namespace MountSweep

open Posix Time

/-- How the attempt to run a command to its end went. -/
inductive Execution
  | refused (e : SystemError)
  | ended (s : Status)
  /-- The command never ends. -/
  | never
  deriving DecidableEq, Repr

inductive Awaited
  | ended (s : Status)
  | failed (e : SystemError)
  /-- The process was still there when the wait was over; a wait without a limit goes on
  forever. -/
  | running
  deriving DecidableEq, Repr

inductive Sink
  /-- Into the capture that is under way. -/
  | captured
  /-- To the streams of the program itself. -/
  | shown
  /-- Nowhere. -/
  | discarded
  deriving DecidableEq, Repr

/-- The answers of a machine in a state of type `σ`. -/
structure ServiceHost (σ : Type) where
  /-- The clock, in nanoseconds. -/
  now : σ → Nat
  sleep : Span → σ → σ
  files : σ → FileSystem
  setFiles : FileSystem → σ → σ
  /-- Whether something is mounted at a path. -/
  isMounted : Path → σ → Bool × σ
  /-- Starts a process; its standard input is empty. -/
  spawn : Command → Sink → σ → Except SystemError Pid × σ
  /-- The status of a process if it has ended. -/
  poll : Pid → σ → Except SystemError (Option Status) × σ
  /-- Waits for the end of a process, at most for a span if one is given. -/
  await : Pid → Option Span → σ → Awaited × σ
  /-- Sends a signal to a process. -/
  signal : Pid → Signal → σ → σ
  /-- Runs a command to its end. -/
  execute : Command → Sink → σ → Execution × σ

/-- Why a sequence of requests does not come to its end. -/
inductive Stuck
  /-- What it waits for never happens. -/
  | waiting
  /-- A deadline lies beyond what the clock can express. -/
  | overflow
  deriving DecidableEq, Repr

abbrev Act (σ α : Type) := ExceptT Stuck (StateM σ) α

namespace Act

/-- The result of a sequence of requests and the state in which it leaves the machine. -/
def run (a : Act σ α) (s : σ) : Except Stuck α × σ :=
  StateT.run (ExceptT.run a) s

def ofFun (f : σ → Except Stuck α × σ) : Act σ α :=
  ExceptT.mk (StateT.mk f)

def ask (f : σ → α × σ) : Act σ α :=
  ofFun fun s ↦
    let (a, s) := f s
    (.ok a, s)

def tell (f : σ → σ) : Act σ Unit :=
  ask fun s ↦ ((), f s)

def stick (why : Stuck) : Act σ α := throw why

/-- The requests of `a`, and then a last one, which is also made if the clock cannot express a
deadline of `a`. -/
def lastly (f : σ → σ) (a : Act σ α) : Act σ α :=
  ofFun fun s ↦
    match a.run s with
    | (.error .waiting, s') => (.error .waiting, s')
    | (r, s') => (r, f s')

@[simp] theorem run_pure (x : α) (s : σ) : (pure x : Act σ α).run s = (.ok x, s) := rfl

@[simp] theorem run_ask (f : σ → α × σ) (s : σ) : (ask f).run s = (.ok (f s).1, (f s).2) := rfl

@[simp] theorem run_tell (f : σ → σ) (s : σ) : (tell f).run s = (.ok (), f s) := rfl

@[simp] theorem run_stick (why : Stuck) (s : σ) :
    (stick why : Act σ α).run s = (.error why, s) := rfl

@[simp] theorem run_get (s : σ) : (get : Act σ σ).run s = (.ok s, s) := rfl

theorem run_bind (a : Act σ α) (f : α → Act σ β) (s : σ) :
    (a >>= f).run s =
      match a.run s with
      | (.ok x, s') => (f x).run s'
      | (.error why, s') => (.error why, s') := by
  unfold run
  rw [ExceptT.run_bind, StateT.run_bind]
  cases StateT.run (ExceptT.run a) s with
  | mk r s' => cases r <;> rfl

theorem run_lastly (f : σ → σ) (a : Act σ α) (s : σ) :
    (lastly f a).run s =
      match a.run s with
      | (.error .waiting, s') => (.error .waiting, s')
      | (r, s') => (r, f s') := rfl

theorem run_lastly_eq_iff {f : σ → σ} {a : Act σ α} {r : Except Stuck α} {s s' : σ}
    (hr : r ≠ .error .waiting) :
    (lastly f a).run s = (r, s') ↔ ∃ s₁, a.run s = (r, s₁) ∧ f s₁ = s' := by
  rw [run_lastly]
  rcases a.run s with ⟨⟨_ | _⟩ | x, s₁⟩
  · simp [hr.symm]
  · simp [and_assoc]
  · simp [and_assoc]

theorem run_lastly_bind {f : σ → σ} {a : Act σ α} {g : α → Act σ β} {s s' : σ} {x : α}
    (h : a.run s = (.ok x, s')) : (lastly f (a >>= g)).run s = (lastly f (g x)).run s' := by
  rw [run_lastly, run_lastly, run_bind, h]

theorem run_bind_eq_ok {a : Act σ α} {f : α → Act σ β} {s s' : σ} {y : β} :
    (a >>= f).run s = (.ok y, s') ↔
      ∃ x s₁, a.run s = (.ok x, s₁) ∧ (f x).run s₁ = (.ok y, s') := by
  rw [run_bind]
  rcases a.run s with ⟨why | x, s₁⟩
  · simp
  · simp [and_assoc]

end Act

def clockEnd : Nat := 0x8000000000000000 * Span.nanosPerSec

def deadline? (now : Nat) (d : Span) : Option Nat :=
  if now + d.nanos < clockEnd then some (now + d.nanos) else none

end MountSweep
