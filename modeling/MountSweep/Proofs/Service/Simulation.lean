import MountSweep.Proofs.Service.Calls

namespace MountSweep

open Posix Time

variable {σ τ α β γ δ : Type} {R : σ → τ → Prop}

namespace Act

/-- Two sequences of requests are stuck alike, or both come to their end with results in the
relation `Q`. -/
inductive Answers (Q : α → β → Prop) : Except Stuck α → Except Stuck β → Prop
  | ok {x : α} {y : β} (h : Q x y) : Answers Q (.ok x) (.ok y)
  | stuck (why : Stuck) : Answers Q (.error why) (.error why)

theorem Answers.eq {r r' : Except Stuck α} (h : Answers Eq r r') : r = r' := by
  cases h with
  | ok h => rw [h]
  | stuck why => rfl

/-- From states in the relation `R`, the two sequences of requests have results in the relation `Q`
and leave states in the relation `R`. -/
def Alike (R : σ → τ → Prop) (Q : α → β → Prop) (a : Act σ α) (b : Act τ β) : Prop :=
  ∀ s t, R s t → Answers Q (a.run s).1 (b.run t).1 ∧ R (a.run s).2 (b.run t).2

namespace Alike

variable {Q : α → β → Prop} {P : γ → δ → Prop} {a : Act σ α} {b : Act τ β}

theorem pure {x : α} {y : β} (h : Q x y) :
    Alike R Q (Pure.pure x : Act σ α) (Pure.pure y : Act τ β) :=
  fun _ _ hst ↦ ⟨.ok h, hst⟩

theorem stick (why : Stuck) :
    Alike R Q (Act.stick why : Act σ α) (Act.stick why : Act τ β) :=
  fun _ _ hst ↦ ⟨.stuck why, hst⟩

theorem ask {f : σ → α × σ} {g : τ → β × τ}
    (h : ∀ s t, R s t → Q (f s).1 (g t).1 ∧ R (f s).2 (g t).2) :
    Alike R Q (Act.ask f) (Act.ask g) := by
  intro s t hst
  obtain ⟨hanswer, hstate⟩ := h s t hst
  exact ⟨.ok hanswer, hstate⟩

theorem tell {f : σ → σ} {g : τ → τ} (h : ∀ s t, R s t → R (f s) (g t)) :
    Alike R Eq (Act.tell f) (Act.tell g) :=
  .ask fun s t hst ↦ ⟨rfl, h s t hst⟩

theorem bind {f : α → Act σ γ} {g : β → Act τ δ} (hab : Alike R Q a b)
    (hfg : ∀ x y, Q x y → Alike R P (f x) (g y)) : Alike R P (a >>= f) (b >>= g) := by
  intro s t hst
  obtain ⟨hanswer, hstate⟩ := hab s t hst
  rw [run_bind, run_bind]
  rcases ha : a.run s with ⟨r, s'⟩
  rcases hb : b.run t with ⟨r', t'⟩
  rw [ha, hb] at hanswer hstate
  cases hanswer with
  | stuck why => exact ⟨.stuck why, hstate⟩
  | ok h => exact hfg _ _ h s' t' hstate

theorem bind_eq {b : Act τ α} {f : α → Act σ γ} {g : α → Act τ δ} (hab : Alike R Eq a b)
    (hfg : ∀ x, Alike R P (f x) (g x)) : Alike R P (a >>= f) (b >>= g) :=
  hab.bind fun x _ h ↦ h ▸ hfg x

theorem lastly {f : σ → σ} {g : τ → τ} (hab : Alike R Q a b)
    (hfg : ∀ s t, R s t → R (f s) (g t)) : Alike R Q (Act.lastly f a) (Act.lastly g b) := by
  intro s t hst
  obtain ⟨hanswer, hstate⟩ := hab s t hst
  rw [run_lastly, run_lastly]
  rcases ha : a.run s with ⟨r, s'⟩
  rcases hb : b.run t with ⟨r', t'⟩
  rw [ha, hb] at hanswer hstate
  cases hanswer with
  | ok h => exact ⟨.ok h, hfg s' t' hstate⟩
  | stuck why =>
    cases why with
    | waiting => exact ⟨.stuck .waiting, hstate⟩
    | overflow => exact ⟨.stuck .overflow, hfg s' t' hstate⟩

theorem get_bind {f : σ → Act σ γ} {g : τ → Act τ δ}
    (h : ∀ s t, R s t → Alike R P (f s) (g t)) :
    Alike R P (get >>= f) (get >>= g) := by
  intro s t hst
  rw [run_bind, run_bind]
  exact h s t hst s t hst

end Alike

end Act

/-- In related states the two machines answer alike what is asked of them once a service has been
spawned, and their states stay related. -/
structure ServiceHost.Tracks (host : ServiceHost σ) (host' : ServiceHost τ) (R : σ → τ → Prop) :
    Prop where
  now {s : σ} {t : τ} : R s t → host.now s = host'.now t
  slept (d : Span) {s : σ} {t : τ} : R s t → R (host.sleep d s) (host'.sleep d t)
  signalled (pid : Pid) (g : Signal) {s : σ} {t : τ} :
    R s t → R (host.signal pid g s) (host'.signal pid g t)
  probed (p : Path) {s : σ} {t : τ} : R s t →
    (host.isMounted p s).1 = (host'.isMounted p t).1 ∧
      R (host.isMounted p s).2 (host'.isMounted p t).2
  polled (pid : Pid) {s : σ} {t : τ} : R s t →
    (host.poll pid s).1 = (host'.poll pid t).1 ∧ R (host.poll pid s).2 (host'.poll pid t).2
  awaited (pid : Pid) (limit : Option Span) {s : σ} {t : τ} : R s t →
    (host.await pid limit s).1 = (host'.await pid limit t).1 ∧
      R (host.await pid limit s).2 (host'.await pid limit t).2
  executed (c : Command) (k : Sink) {s : σ} {t : τ} : R s t →
    (host.execute c k s).1 = (host'.execute c k t).1 ∧
      R (host.execute c k s).2 (host'.execute c k t).2

/-- In related states the two machines answer a service alike, and their states stay related. -/
structure ServiceHost.Matches (host : ServiceHost σ) (host' : ServiceHost τ) (R : σ → τ → Prop) :
    Prop extends host.Tracks host' R where
  files {s : σ} {t : τ} : R s t → host.files s = host'.files t
  changed (fs : FileSystem) {s : σ} {t : τ} :
    R s t → R (host.setFiles fs s) (host'.setFiles fs t)
  spawned (c : Command) (k : Sink) {s : σ} {t : τ} : R s t →
    (host.spawn c k s).1 = (host'.spawn c k t).1 ∧ R (host.spawn c k s).2 (host'.spawn c k t).2

theorem ServiceHost.matches_self (host : ServiceHost σ) : host.Matches host Eq where
  now := congrArg _
  files := congrArg _
  slept _ := congrArg _
  changed _ := congrArg _
  signalled _ _ := congrArg _
  probed p {s t} h := by simp [h]
  spawned c k {s t} h := by simp [h]
  polled pid {s t} h := by simp [h]
  awaited pid limit {s t} h := by simp [h]
  executed c k {s t} h := by simp [h]

variable {host : ServiceHost σ} {host' : ServiceHost τ}

open Act

section

variable (hR : host.Tracks host' R)
include hR

theorem runUnmount_alike (command : List String) (path : Path)
    (quiet : Bool) :
    Alike R Eq (runUnmount host command path quiet) (runUnmount host' command path quiet) := by
  unfold runUnmount
  cases command with
  | nil => exact .pure rfl
  | cons program args =>
    refine (Alike.ask fun s t ↦ hR.executed _ _).bind_eq fun x ↦ ?_
    cases x with
    | refused e => exact .pure rfl
    | never => exact .stick _
    | ended st =>
      dsimp only
      split <;> exact .pure rfl

namespace ServiceHandle

variable (h : ServiceHandle)

theorem poll_alike : Alike R Eq (h.poll host) (h.poll host') := by
  unfold poll
  cases h.ended with
  | some st => exact .pure rfl
  | none =>
    refine (Alike.ask fun s t ↦ hR.polled h.pid).bind_eq fun p ↦ ?_
    rcases p with e | _ | st <;> exact .pure rfl

theorem await_alike (limit : Option Span) :
    Alike R Eq (h.await host limit) (h.await host' limit) := by
  unfold await
  cases h.ended with
  | some st => exact .pure rfl
  | none =>
    refine (Alike.ask fun s t ↦ hR.awaited h.pid limit).bind_eq fun a ↦ ?_
    cases a <;> exact .pure rfl

theorem signal_alike (g : Signal) :
    Alike R Eq (h.signal host g) (h.signal host' g) := by
  unfold signal
  split
  · exact .tell fun s t ↦ hR.signalled h.pid g
  · exact .pure rfl

theorem kill_alike : Alike R Eq (h.kill host) (h.kill host') := by
  refine (signal_alike hR h .kill).bind_eq fun _ ↦ (await_alike hR h none).bind_eq fun x ↦ ?_
  obtain ⟨a, h'⟩ := x
  cases a with
  | running => exact .stick _
  | ended st => exact .pure rfl
  | failed e => exact .pure rfl

theorem insist_alike : Alike R Eq (h.insist host) (h.insist host') := by
  refine (signal_alike hR h .terminate).bind_eq fun _ ↦ (await_alike hR h _).bind_eq fun x ↦ ?_
  obtain ⟨a, h'⟩ := x
  cases a with
  | running => exact kill_alike hR h'
  | ended st => exact .pure rfl
  | failed e => exact .pure rfl

theorem reclaim_alike : Alike R Eq (h.reclaim host) (h.reclaim host') := by
  refine (poll_alike hR h).bind_eq fun x ↦ ?_
  obtain ⟨e | _ | st, h'⟩ := x
  · exact insist_alike hR h'
  · exact insist_alike hR h'
  · exact .pure rfl

theorem cleanup_alike : Alike R Eq (h.cleanup host) (h.cleanup host') := by
  unfold cleanup
  split
  · exact .pure rfl
  · exact (runUnmount_alike hR _ _ _).bind_eq fun _ ↦ reclaim_alike hR _

theorem unmount_alike : Alike R Eq (h.unmount host) (h.unmount host') := by
  refine (runUnmount_alike hR _ _ _).bind_eq fun v ↦ ?_
  cases v with
  | error e => exact .pure rfl
  | ok u =>
    refine (Alike.ask fun s t ↦ hR.probed h.mnt).bind_eq fun m ↦ ?_
    cases m with
    | true => exact .pure rfl
    | false =>
      refine (await_alike hR h _).bind_eq fun x ↦ ?_
      obtain ⟨a, h'⟩ := x
      cases a with
      | running => exact .pure rfl
      | failed e => exact .pure rfl
      | ended st =>
        dsimp only
        split <;> exact .pure rfl

theorem stop_alike : Alike R Eq (h.stop host) (h.stop host') := by
  unfold stop
  split
  · exact .pure rfl
  · refine (unmount_alike hR h).bind_eq fun x ↦ ?_
    obtain ⟨e | u, h'⟩ := x
    · exact (cleanup_alike hR h').bind_eq fun _ ↦ .pure rfl
    · exact .pure rfl

theorem abandon_alike : Alike R Eq (h.abandon host) (h.abandon host') := by
  unfold abandon
  split
  · exact .pure rfl
  · refine (signal_alike hR h .kill).bind_eq fun _ ↦ ?_
    cases h.unmountCommand with
    | nil => exact .pure rfl
    | cons program args =>
      refine (Alike.ask fun s t ↦ hR.executed _ _).bind_eq fun x ↦ ?_
      cases x with
      | refused e => exact .pure rfl
      | never => exact .stick _
      | ended st => exact .pure rfl

theorem waitReadyFor_alike (deadline n : ℕ) (h : ServiceHandle) :
    Alike R Eq (waitReadyFor host deadline n h) (waitReadyFor host' deadline n h) := by
  induction n generalizing h with
  | zero => exact .stick _
  | succ n ih =>
    refine (Alike.ask fun s t ↦ hR.probed h.mnt).bind_eq fun m ↦ ?_
    cases m with
    | true => exact .pure rfl
    | false =>
      refine (poll_alike hR h).bind_eq fun x ↦ ?_
      obtain ⟨e | _ | st, h'⟩ := x
      · exact .pure rfl
      · refine .get_bind fun s t hst ↦ ?_
        rw [hR.now hst]
        split
        · exact .pure rfl
        · exact (Alike.tell fun s t ↦ hR.slept _).bind_eq fun _ ↦ ih h'
      · exact .pure rfl

theorem waitReady_alike : Alike R Eq (h.waitReady host) (h.waitReady host') := by
  refine .get_bind fun s t hst ↦ ?_
  rw [hR.now hst]
  split
  · exact (abandon_alike hR h).bind_eq fun _ ↦ .stick _
  · exact waitReadyFor_alike hR _ _ h

theorem settle_alike : Alike R Eq (h.settle host) (h.settle host') := by
  refine (waitReady_alike hR h).bind_eq fun x ↦ ?_
  obtain ⟨e | u, h'⟩ := x
  · exact (cleanup_alike hR h').bind_eq fun _ ↦ .pure rfl
  · exact .pure rfl

end ServiceHandle

end

namespace ServiceLauncher

variable (hR : host.Matches host' R) (l : ServiceLauncher) (v : Variant) (dirs : ServiceDirs)
include hR

theorem prepare_alike (mode : NameMapMode) (dir : Path) :
    Alike R Eq (prepare host mode dir) (prepare host' mode dir) := by
  refine .ask fun s t hst ↦ ?_
  rw [hR.files hst]
  exact ⟨rfl, hR.changed _ hst⟩

theorem launch_alike : Alike R Eq (l.launch host v dirs) (l.launch host' v dirs) := by
  unfold launch
  cases v.options with
  | error e => exact .pure rfl
  | ok options =>
    refine (prepare_alike hR options.nameMap dirs.conf).bind_eq fun w ↦ ?_
    cases w with
    | error e => exact .pure rfl
    | ok u =>
      dsimp only
      rcases l.commandLine v dirs with e | _ | ⟨program, args⟩
      · exact .pure rfl
      · exact .pure rfl
      · refine (Alike.ask fun s t ↦ hR.spawned _ _).bind_eq fun p ↦ ?_
        cases p <;> exact .pure rfl

theorem start_alike : Alike R Eq (l.start host v dirs) (l.start host' v dirs) := by
  refine (launch_alike hR l v dirs).bind_eq fun r ↦ ?_
  cases r with
  | error e => exact .pure rfl
  | ok h =>
    refine (ServiceHandle.settle_alike hR.toTracks h).bind_eq fun x ↦ ?_
    obtain ⟨e | u, h'⟩ := x <;> exact .pure rfl

end ServiceLauncher

end MountSweep
