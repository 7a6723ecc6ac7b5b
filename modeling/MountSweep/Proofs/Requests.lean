import Mathlib.Data.List.Basic
import MountSweep.Service.LifeCycle
import MountSweep.Sweep.Host

namespace MountSweep

open Posix Time Output

variable {σ α β : Type}

inductive Event
  | slept (d : Span)
  | changedFiles
  | probed (p : Path) (mounted : Bool)
  | spawned (c : Command) (sink : Sink) (r : Except SystemError Pid)
  | polled (pid : Pid) (r : Except SystemError (Option Status))
  | awaited (pid : Pid) (limit : Option Span) (a : Awaited)
  | signalled (pid : Pid) (g : Signal)
  | executed (c : Command) (sink : Sink) (x : Execution)
  | resumed
  | madeTemporary (stem : String) (r : Except SystemError Path)
  | removedTemporary (p : Path)
  | openedCapture
  | drained (d : Span) (c : Captured)
  | emitted (c : Captured)
  | printed (line : String)
  | startedLog (filter : Option Bytes) (level : String)
  | logged (level : LogLevel) (target message : String)

/-- Whether it takes more than driving a service to make the request. -/
def Event.ofSweep : Event → Bool
  | .resumed | .madeTemporary .. | .removedTemporary _ | .openedCapture | .drained .. | .emitted _
  | .printed _ | .startedLog .. | .logged .. => true
  | _ => false

def Event.OfService (e : Event) : Prop := e.ofSweep = false

def Event.isExecution : Event → Bool
  | .executed .. => true
  | _ => false

def Event.signal? : Event → Option (Pid × Signal)
  | .signalled pid g => some (pid, g)
  | _ => none

def Event.end? (pid : Pid) : Event → Option Status
  | .polled p (.ok (some st)) => if p = pid then some st else none
  | .awaited p _ (.ended st) => if p = pid then some st else none
  | _ => none

def executions (es : List Event) : ℕ := es.countP Event.isExecution

def signals (es : List Event) : List (Pid × Signal) := es.filterMap Event.signal?

/-- Among these requests the process was found to have ended so, and it was reaped. -/
def Found (pid : Pid) (st : Status) (es : List Event) : Prop := ∃ e ∈ es, e.end? pid = some st

@[simp] theorem executions_nil : executions [] = 0 := rfl

@[simp] theorem executions_cons (e : Event) (es : List Event) :
    executions (e :: es) = executions es + if e.isExecution then 1 else 0 :=
  List.countP_cons

@[simp] theorem executions_append (es es' : List Event) :
    executions (es ++ es') = executions es + executions es' :=
  List.countP_append

@[simp] theorem signals_nil : signals [] = [] := rfl

@[simp] theorem signals_cons (e : Event) (es : List Event) :
    signals (e :: es) = e.signal?.toList ++ signals es := by
  cases h : e.signal? <;> simp [signals, h]

@[simp] theorem signals_append (es es' : List Event) :
    signals (es ++ es') = signals es ++ signals es' :=
  List.filterMap_append

theorem filter_ofSweep {es : List Event} (h : ∀ e ∈ es, e.OfService) :
    es.filter Event.ofSweep = [] :=
  List.filter_eq_nil_iff.mpr fun e he ↦ by simp [show e.ofSweep = false from h e he]

@[simp] theorem found_nil (pid : Pid) (st : Status) : ¬ Found pid st [] := by simp [Found]

@[simp] theorem found_cons (pid : Pid) (st : Status) (e : Event) (es : List Event) :
    Found pid st (e :: es) ↔ e.end? pid = some st ∨ Found pid st es := by
  simp [Found]

@[simp] theorem found_append (pid : Pid) (st : Status) (es es' : List Event) :
    Found pid st (es ++ es') ↔ Found pid st es ∨ Found pid st es' := by
  simp [Found, or_and_right, exists_or]

namespace ServiceHost

def recorded (host : ServiceHost σ) : ServiceHost (σ × List Event) where
  now s := host.now s.1
  sleep d s := (host.sleep d s.1, s.2 ++ [.slept d])
  files s := host.files s.1
  setFiles files s := (host.setFiles files s.1, s.2 ++ [.changedFiles])
  isMounted p s :=
    ((host.isMounted p s.1).1, (host.isMounted p s.1).2,
      s.2 ++ [.probed p (host.isMounted p s.1).1])
  spawn c k s :=
    ((host.spawn c k s.1).1, (host.spawn c k s.1).2, s.2 ++ [.spawned c k (host.spawn c k s.1).1])
  poll pid s :=
    ((host.poll pid s.1).1, (host.poll pid s.1).2, s.2 ++ [.polled pid (host.poll pid s.1).1])
  await pid l s :=
    ((host.await pid l s.1).1, (host.await pid l s.1).2,
      s.2 ++ [.awaited pid l (host.await pid l s.1).1])
  signal pid g s := (host.signal pid g s.1, s.2 ++ [.signalled pid g])
  execute c k s :=
    ((host.execute c k s.1).1, (host.execute c k s.1).2,
      s.2 ++ [.executed c k (host.execute c k s.1).1])

@[simp] theorem recorded_now (host : ServiceHost σ) (s : σ) (log : List Event) :
    host.recorded.now (s, log) = host.now s := rfl

end ServiceHost

def SweepHost.recorded (host : SweepHost σ) : SweepHost (σ × List Event) where
  toServiceHost := host.toServiceHost.recorded
  isRoot s := host.isRoot s.1
  caller := host.caller
  isInterrupted s := host.isInterrupted s.1
  workspace s := host.workspace s.1
  resume w s := (host.resume w s.1, s.2 ++ [.resumed])
  makeTemporary stem s :=
    ((host.makeTemporary stem s.1).1, (host.makeTemporary stem s.1).2,
      s.2 ++ [.madeTemporary stem (host.makeTemporary stem s.1).1])
  removeTemporary p s := (host.removeTemporary p s.1, s.2 ++ [.removedTemporary p])
  openCapture s := (host.openCapture s.1, s.2 ++ [.openedCapture])
  drain d s :=
    ((host.drain d s.1).1, (host.drain d s.1).2, s.2 ++ [.drained d (host.drain d s.1).1])
  emit c s := (host.emit c s.1, s.2 ++ [.emitted c])
  printLine line s := (host.printLine line s.1, s.2 ++ [.printed line])
  startLog filter level s := (host.startLog filter level s.1, s.2 ++ [.startedLog filter level])
  log level target message s :=
    (host.log level target message s.1, s.2 ++ [.logged level target message])

/-- On a recorded machine in state `s`, the requests of `a` are `es`; they end with `r` and leave
the machine in state `s'`. -/
def Runs (a : Act (σ × List Event) α) (s : σ) (es : List Event) (r : Except Stuck α) (s' : σ) :
    Prop :=
  ∀ log, a.run (s, log) = (r, s', log ++ es)

namespace Runs

variable {a : Act (σ × List Event) α} {f : α → Act (σ × List Event) β}
variable {s s' s'' : σ} {es es' : List Event}

theorem pure (x : α) (s : σ) : Runs (pure x) s [] (.ok x) s := by
  intro log
  simp

theorem stick (why : Stuck) (s : σ) :
    Runs (Act.stick why : Act (σ × List Event) α) s [] (.error why) s := by
  intro log
  simp

theorem ask {g : σ × List Event → α × σ × List Event} {x : α}
    (h : ∀ log, g (s, log) = (x, s', log ++ es)) : Runs (Act.ask g) s es (.ok x) s' := by
  intro log
  simp [h]

theorem tell {g : σ × List Event → σ × List Event}
    (h : ∀ log, g (s, log) = (s', log ++ es)) : Runs (Act.tell g) s es (.ok ()) s' := by
  intro log
  simp [h]

theorem bind {x : α} {r : Except Stuck β} (ha : Runs a s es (.ok x) s')
    (hf : Runs (f x) s' es' r s'') : Runs (a >>= f) s (es ++ es') r s'' := by
  intro log
  rw [Act.run_bind, ha log]
  simpa only [List.append_assoc] using hf (log ++ es)

theorem bind_last {x : α} {r : Except Stuck β} (ha : Runs a s es (.ok x) s')
    (hf : Runs (f x) s' [] r s'') : Runs (a >>= f) s es r s'' := by
  simpa only [List.append_nil] using ha.bind hf

theorem bind_stuck {why : Stuck} (ha : Runs a s es (.error why) s') :
    Runs (a >>= f) s es (.error why) s' := by
  intro log
  rw [Act.run_bind, ha log]

theorem map {r : Except Stuck α} (ha : Runs a s es r s') (g : α → β) :
    Runs (a >>= fun x ↦ Pure.pure (g x)) s es (r.map g) s' := by
  cases r with
  | error why => exact ha.bind_stuck
  | ok x => exact ha.bind_last (.pure _ _)

theorem lastly {f : σ × List Event → σ × List Event} {r : Except Stuck α}
    (ha : Runs a s es r s') (hr : r ≠ .error .waiting)
    (hf : ∀ log, f (s', log) = (s'', log ++ es')) :
    Runs (Act.lastly f a) s (es ++ es') r s'' := by
  intro log
  rw [Act.run_lastly_eq_iff hr]
  refine ⟨_, ha log, ?_⟩
  rw [hf, List.append_assoc]

theorem get_bind {g : σ × List Event → Act (σ × List Event) β} {r : Except Stuck β}
    (hg : ∀ log, g (s, log) = g (s, [])) (h : Runs (g (s, [])) s es r s') :
    Runs (get >>= g) s es r s' := by
  intro log
  rw [Act.run_bind, Act.run_get]
  simpa only [hg log] using h log

variable {host : ServiceHost σ}

theorem slept (d : Span) (s : σ) :
    Runs (Act.tell (host.recorded.sleep d)) s [.slept d] (.ok ()) (host.sleep d s) :=
  .tell fun _ ↦ rfl

theorem probed {p : Path} {m : Bool} (h : host.isMounted p s = (m, s')) :
    Runs (Act.ask (host.recorded.isMounted p)) s [.probed p m] (.ok m) s' :=
  .ask fun log ↦ by simp [ServiceHost.recorded, h]

theorem spawned {c : Command} {k : Sink} {p : Except SystemError Pid}
    (h : host.spawn c k s = (p, s')) :
    Runs (Act.ask (host.recorded.spawn c k)) s [.spawned c k p] (.ok p) s' :=
  .ask fun log ↦ by simp [ServiceHost.recorded, h]

theorem polled {pid : Pid} {p : Except SystemError (Option Status)}
    (h : host.poll pid s = (p, s')) :
    Runs (Act.ask (host.recorded.poll pid)) s [.polled pid p] (.ok p) s' :=
  .ask fun log ↦ by simp [ServiceHost.recorded, h]

theorem awaited {pid : Pid} {limit : Option Span} {x : Awaited}
    (h : host.await pid limit s = (x, s')) :
    Runs (Act.ask (host.recorded.await pid limit)) s [.awaited pid limit x] (.ok x) s' :=
  .ask fun log ↦ by simp [ServiceHost.recorded, h]

theorem executed {c : Command} {k : Sink} {x : Execution} (h : host.execute c k s = (x, s')) :
    Runs (Act.ask (host.recorded.execute c k)) s [.executed c k x] (.ok x) s' :=
  .ask fun log ↦ by simp [ServiceHost.recorded, h]

theorem signalled (pid : Pid) (g : Signal) (s : σ) :
    Runs (Act.tell (host.recorded.signal pid g)) s [.signalled pid g] (.ok ())
      (host.signal pid g s) :=
  .tell fun _ ↦ rfl

theorem unique {r r' : Except Stuck α} (h : Runs a s es r s') (h' : Runs a s es' r' s'') :
    es = es' ∧ r = r' ∧ s' = s'' := by
  have he := (h []).symm.trans (h' [])
  simp only [List.nil_append, Prod.mk.injEq] at he
  exact ⟨he.2.2, he.1, he.2.1⟩

end Runs

/-- `a` does on a recorded machine what `b` does on the machine itself, and all that it requests
satisfies `P`. -/
def Mirrors (P : Event → Prop) (a : Act (σ × List Event) α) (b : Act σ α) : Prop :=
  ∀ s, ∃ es, Runs a s es (b.run s).1 (b.run s).2 ∧ ∀ e ∈ es, P e

namespace Mirrors

variable {P Q : Event → Prop} {a : Act (σ × List Event) α} {b : Act σ α} {s s' : σ}
  {es : List Event} {r : Except Stuck α}

theorem pure (x : α) : Mirrors (σ := σ) P (pure x) (pure x) := fun s ↦ ⟨[], .pure x s, nofun⟩

theorem stick (why : Stuck) : Mirrors P (Act.stick why : Act (σ × List Event) α) (Act.stick why) :=
  fun s ↦ ⟨[], .stick why s, nofun⟩

theorem ask {g : σ × List Event → α × σ × List Event} {f : σ → α × σ}
    (h : ∀ s, ∃ e, P e ∧ ∀ log, g (s, log) = ((f s).1, (f s).2, log ++ [e])) :
    Mirrors P (Act.ask g) (Act.ask f) := by
  intro s
  obtain ⟨e, he, hg⟩ := h s
  exact ⟨[e], .ask hg, by simpa using he⟩

theorem tell {g : σ × List Event → σ × List Event} {f : σ → σ}
    (h : ∀ s, ∃ e, P e ∧ ∀ log, g (s, log) = (f s, log ++ [e])) :
    Mirrors P (Act.tell g) (Act.tell f) := by
  intro s
  obtain ⟨e, he, hg⟩ := h s
  exact ⟨[e], .tell hg, by simpa using he⟩

theorem bind {f : α → Act (σ × List Event) β} {g : α → Act σ β} (h : Mirrors P a b)
    (hf : ∀ x, Mirrors P (f x) (g x)) : Mirrors P (a >>= f) (b >>= g) := by
  intro s
  obtain ⟨es, hes, hP⟩ := h s
  rw [Act.run_bind]
  rcases hb : b.run s with ⟨why | x, s₁⟩
  · rw [hb] at hes
    exact ⟨es, hes.bind_stuck, hP⟩
  · rw [hb] at hes
    obtain ⟨es', hes', hP'⟩ := hf x s₁
    exact ⟨es ++ es', hes.bind hes', List.forall_mem_append.mpr ⟨hP, hP'⟩⟩

theorem get_bind {f : σ × List Event → Act (σ × List Event) β} {g : σ → Act σ β}
    (hf : ∀ s log, f (s, log) = f (s, [])) (h : ∀ s, Mirrors P (f (s, [])) (g s)) :
    Mirrors P (get >>= f) (get >>= g) := by
  intro s
  obtain ⟨es, hes, hP⟩ := h s s
  rw [Act.run_bind, Act.run_get]
  exact ⟨es, .get_bind (hf s) hes, hP⟩

theorem mono (h : Mirrors P a b) (hPQ : ∀ e, P e → Q e) : Mirrors Q a b := by
  intro s
  obtain ⟨es, hes, hP⟩ := h s
  exact ⟨es, hes, fun e he ↦ hPQ e (hP e he)⟩

theorem run_eq (h : Mirrors P a b) (ha : Runs a s es r s') : b.run s = (r, s') := by
  obtain ⟨es', hes, -⟩ := h s
  obtain ⟨-, hr, hs⟩ := ha.unique hes
  rw [hr, hs]

theorem runs (h : Mirrors P a b) (hb : b.run s = (r, s')) : ∃ es, Runs a s es r s' := by
  obtain ⟨es, hes, -⟩ := h s
  rw [hb] at hes
  exact ⟨es, hes⟩

theorem forall_mem (h : Mirrors P a b) (ha : Runs a s es r s') : ∀ e ∈ es, P e := by
  obtain ⟨es', hes, hP⟩ := h s
  obtain ⟨rfl, -⟩ := ha.unique hes
  exact hP

end Mirrors

end MountSweep
