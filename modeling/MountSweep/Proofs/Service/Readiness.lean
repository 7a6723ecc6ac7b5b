import Mathlib.Algebra.Order.Floor.Div
import MountSweep.Proofs.Service.Progress
import MountSweep.Proofs.Validation

namespace MountSweep

open Posix Time

variable {σ : Type} {host : ServiceHost σ} {h : ServiceHandle} {s s' : σ} {es : List Event}

namespace Config

theorem pollInterval_of_validate {c : Config} (hc : c.validate = .ok ()) :
    0 < c.timeouts.pollInterval.nanos := (validate_eq_ok_iff.mp hc).pollInterval_pos

end Config

/-- What one round of the wait for a mount finds: whether the mount is there, how the process has
ended if it has, and the time. -/
structure Round where
  mounted : Bool
  ended : Option Status
  time : ℕ

namespace Round

/-- The mount is there, the process has ended, or the deadline has passed. -/
def Decides (deadline : ℕ) (r : Round) : Prop :=
  r.mounted = true ∨ r.ended ≠ none ∨ deadline ≤ r.time

def verdict (mnt : Path) (limit : Span) (r : Round) : Except SetupError Unit :=
  if r.mounted then .ok ()
  else
    match r.ended with
    | some st => .error (.prematureExit st.display)
    | none => .error (.mountTimeout mnt limit)

end Round

namespace ServiceHost

/-- A round that begins in a state, and the state in which it leaves the machine. -/
def round (host : ServiceHost σ) (h : ServiceHandle) (s : σ) : Round × σ :=
  let (mounted, s₁) := host.isMounted h.mnt s
  let (polled, s₂) := host.look h s₁
  ({ mounted, ended := statusOf polled, time := host.now s₂ }, s₂)

/-- The state in which a round begins when those before it have decided nothing. -/
def beforeRound (host : ServiceHost σ) (h : ServiceHandle) : ℕ → σ → σ
  | 0, s => s
  | k + 1, s => beforeRound host h k (host.sleep h.timeouts.pollInterval (host.round h s).2)

/-- What a round finds when those before it have decided nothing. -/
def roundAt (host : ServiceHost σ) (h : ServiceHandle) (k : ℕ) (s : σ) : Round :=
  (host.round h (host.beforeRound h k s)).1

end ServiceHost

def Event.isProbe : Event → Bool
  | .probed .. => true
  | _ => false

/-- The number of rounds that a wait has made: each begins by looking whether the mount is there. -/
def rounds (es : List Event) : ℕ := es.countP Event.isProbe

@[simp] theorem rounds_nil : rounds [] = 0 := rfl

@[simp] theorem rounds_cons (e : Event) (es : List Event) :
    rounds (e :: es) = rounds es + if e.isProbe then 1 else 0 :=
  List.countP_cons

@[simp] theorem rounds_append (es es' : List Event) : rounds (es ++ es') = rounds es + rounds es' :=
  List.countP_append

@[simp] theorem rounds_asks_polled (h : ServiceHandle) (p : Except SystemError (Option Status)) :
    rounds (h.asks (.polled h.pid p)) = 0 := by
  unfold ServiceHandle.asks
  split <;> rfl

structure ServiceHost.FirstDecisive (host : ServiceHost σ) (h : ServiceHandle) (deadline : ℕ)
    (s : σ) (n : ℕ) : Prop where
  undecided (k : ℕ) : k < n → ¬ (host.roundAt h k s).Decides deadline
  decides : (host.roundAt h n s).Decides deadline

theorem ServiceHost.FirstDecisive.zero {deadline : ℕ}
    (hd : (host.round h s).1.Decides deadline) : host.FirstDecisive h deadline s 0 :=
  ⟨fun _ hk ↦ absurd hk (Nat.not_lt_zero _), hd⟩

theorem ServiceHost.FirstDecisive.succ {deadline n : ℕ}
    (hd : ¬ (host.round h s).1.Decides deadline)
    (hn : host.FirstDecisive h deadline
      (host.sleep h.timeouts.pollInterval (host.round h s).2) n) :
    host.FirstDecisive h deadline s (n + 1) := by
  refine ⟨fun k hk ↦ ?_, hn.decides⟩
  cases k with
  | zero => exact hd
  | succ k => exact hn.undecided k (Nat.lt_of_succ_lt_succ hk)

namespace ServiceHandle

end ServiceHandle

namespace ServiceLauncher

variable {l : ServiceLauncher} {v : Variant} {dirs : ServiceDirs} {s₁ : σ}

end ServiceLauncher

def Config.plain : Config := { matrix := [], falsePositives := [] }

end MountSweep
