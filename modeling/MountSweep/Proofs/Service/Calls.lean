import MountSweep.Proofs.Requests

namespace MountSweep

open Posix Time

variable {σ : Type}

def Awaited.status? : Awaited → Option Status
  | .ended st => some st
  | .failed _ | .running => none

namespace ServiceHandle

def learn (h : ServiceHandle) : Option Status → ServiceHandle
  | some st => { h with ended := some st }
  | none => h

@[simp] theorem learn_none (h : ServiceHandle) : h.learn none = h := rfl

@[simp] theorem learn_pid (h : ServiceHandle) (o : Option Status) : (h.learn o).pid = h.pid := by
  cases o <;> rfl

@[simp] theorem learn_state (h : ServiceHandle) (o : Option Status) :
    (h.learn o).state = h.state := by
  cases o <;> rfl

@[simp] theorem learn_src (h : ServiceHandle) (o : Option Status) : (h.learn o).src = h.src := by
  cases o <;> rfl

@[simp] theorem learn_mnt (h : ServiceHandle) (o : Option Status) : (h.learn o).mnt = h.mnt := by
  cases o <;> rfl

@[simp] theorem learn_unmountCommand (h : ServiceHandle) (o : Option Status) :
    (h.learn o).unmountCommand = h.unmountCommand := by
  cases o <;> rfl

@[simp] theorem learn_cacheTimeout (h : ServiceHandle) (o : Option Status) :
    (h.learn o).cacheTimeout = h.cacheTimeout := by
  cases o <;> rfl

@[simp] theorem learn_timeouts (h : ServiceHandle) (o : Option Status) :
    (h.learn o).timeouts = h.timeouts := by
  cases o <;> rfl

theorem learn_known {h : ServiceHandle} {st : Status} (he : h.ended = some st) :
    h.learn (some st) = h := by
  cases h
  simp_all [learn]

/-- What is requested about the process of a handle: nothing once its end is known. -/
def asks (h : ServiceHandle) (e : Event) : List Event :=
  if h.ended = none then [e] else []

theorem asks_none {h : ServiceHandle} (he : h.ended = none) (e : Event) : h.asks e = [e] := by
  simp [asks, he]

theorem asks_some {h : ServiceHandle} {st : Status} (he : h.ended = some st) (e : Event) :
    h.asks e = [] := by
  simp [asks, he]

def unmountRequest (h : ServiceHandle) (sink : Sink) (x : Execution) : List Event :=
  match h.unmountCommand with
  | [] => []
  | program :: args =>
    [.executed { program := Bytes.ofString program, args := args.map Bytes.ofString ++ [h.mnt] }
      sink x]

def unmountVerdict (h : ServiceHandle) : Execution → Except Stuck (Except TeardownError Unit)
  | .refused e => .ok (.error (.unmountSpawn (" ".intercalate h.unmountCommand) e))
  | .never => .error .waiting
  | .ended st =>
    if st.isSuccess then .ok (.ok ())
    else .ok (.error (.unmountFailed (" ".intercalate h.unmountCommand) st.display))

theorem unmountVerdict_ok (h : ServiceHandle) {x : Execution} (hn : x ≠ .never) :
    ∃ v, h.unmountVerdict x = .ok v := by
  cases x with
  | refused e => exact ⟨_, rfl⟩
  | never => exact absurd rfl hn
  | ended st =>
    cases hst : st.isSuccess
    · exact ⟨_, by simp [unmountVerdict, hst]; rfl⟩
    · exact ⟨_, by simp [unmountVerdict, hst]; rfl⟩

theorem unmountVerdict_success {h : ServiceHandle} {x : Execution} :
    h.unmountVerdict x = .ok (.ok ()) ↔ x = .ended (.exited 0) := by
  cases x with
  | refused e => simp [unmountVerdict]
  | never => simp [unmountVerdict]
  | ended st =>
    rw [Execution.ended.injEq, ← st.isSuccess_iff]
    cases hst : st.isSuccess <;> simp [unmountVerdict, hst]

theorem unmountVerdict_error {h : ServiceHandle} {x : Execution} {e : TeardownError}
    (hv : h.unmountVerdict x = .ok (.error e)) :
    (∃ e', x = .refused e' ∧ e = .unmountSpawn (" ".intercalate h.unmountCommand) e') ∨
      ∃ st, x = .ended st ∧ st ≠ .exited 0 ∧
        e = .unmountFailed (" ".intercalate h.unmountCommand) st.display := by
  cases x with
  | refused e' =>
    cases hv
    exact .inl ⟨e', rfl, rfl⟩
  | never => cases hv
  | ended st =>
    cases hst : st.isSuccess with
    | true => simp [unmountVerdict, hst] at hv
    | false =>
      refine .inr ⟨st, rfl, fun he ↦ ?_, by simpa [unmountVerdict, hst] using hv.symm⟩
      rw [st.isSuccess_iff.mpr he] at hst
      cases hst

def waitVerdict (h : ServiceHandle) : Awaited → Except TeardownError Unit
  | .running => .error (.didNotTerminate h.timeouts.stop)
  | .failed e => .error (.wait e)
  | .ended st => if st.isSuccess then .ok () else .error (.abnormal st.code? st.display)

end ServiceHandle

namespace ServiceHost

def unmount (host : ServiceHost σ) (h : ServiceHandle) (sink : Sink) (s : σ) : Execution × σ :=
  match h.unmountCommand with
  | [] => (.refused (.stated "empty command"), s)
  | program :: args =>
    host.execute { program := Bytes.ofString program, args := args.map Bytes.ofString ++ [h.mnt] }
      sink s

def look (host : ServiceHost σ) (h : ServiceHandle) (s : σ) :
    Except SystemError (Option Status) × σ :=
  match h.ended with
  | some st => (.ok (some st), s)
  | none => host.poll h.pid s

def waitFor (host : ServiceHost σ) (h : ServiceHandle) (limit : Option Span) (s : σ) :
    Awaited × σ :=
  match h.ended with
  | some st => (.ended st, s)
  | none => host.await h.pid limit s

end ServiceHost

def statusOf : Except SystemError (Option Status) → Option Status
  | .ok o => o
  | .error _ => none

variable (host : ServiceHost σ) (h : ServiceHandle) (s : σ)

theorem runUnmount_runs (quiet : Bool) {sink : Sink}
    (hk : (if quiet then Sink.discarded else .shown) = sink) {x : Execution} {s' : σ}
    (hx : host.unmount h sink s = (x, s')) :
    Runs (runUnmount host.recorded h.unmountCommand h.mnt quiet) s (h.unmountRequest sink x)
      (h.unmountVerdict x) s' := by
  unfold ServiceHost.unmount at hx
  unfold runUnmount ServiceHandle.unmountRequest ServiceHandle.unmountVerdict
  rw [hk]
  cases hc : h.unmountCommand with
  | nil =>
    rw [hc] at hx
    cases hx
    exact .pure _ s
  | cons program args =>
    rw [hc] at hx
    refine (Runs.executed hx).bind_last ?_
    cases x with
    | refused e => exact .pure _ s'
    | never => exact .stick _ s'
    | ended st =>
      dsimp only
      split <;> exact .pure _ s'

namespace ServiceHandle

theorem look_none {host : ServiceHost σ} {h : ServiceHandle} (he : h.ended = none) (s : σ) :
    host.look h s = host.poll h.pid s := by
  simp [ServiceHost.look, he]

theorem look_some {host : ServiceHost σ} {h : ServiceHandle} {st : Status}
    (he : h.ended = some st) (s : σ) : host.look h s = (.ok (some st), s) := by
  simp [ServiceHost.look, he]

theorem waitFor_none {host : ServiceHost σ} {h : ServiceHandle} (he : h.ended = none)
    (limit : Option Span) (s : σ) : host.waitFor h limit s = host.await h.pid limit s := by
  simp [ServiceHost.waitFor, he]

theorem waitFor_some {host : ServiceHost σ} {h : ServiceHandle} {st : Status}
    (he : h.ended = some st) (limit : Option Span) (s : σ) :
    host.waitFor h limit s = (.ended st, s) := by
  simp [ServiceHost.waitFor, he]

theorem poll_runs {p : Except SystemError (Option Status)} {s' : σ}
    (hp : host.look h s = (p, s')) :
    Runs (h.poll host.recorded) s (h.asks (.polled h.pid p))
      (.ok (p, h.learn (statusOf p))) s' := by
  unfold poll
  cases he : h.ended with
  | some st =>
    rw [look_some he] at hp
    cases hp
    simpa only [asks_some he, statusOf, learn_known he] using Runs.pure _ s
  | none =>
    rw [look_none he] at hp
    rw [asks_none he]
    refine (Runs.polled hp).bind_last ?_
    rcases p with e | _ | st <;> exact .pure _ s'

theorem await_runs {limit : Option Span} {a : Awaited} {s' : σ}
    (ha : host.waitFor h limit s = (a, s')) :
    Runs (h.await host.recorded limit) s (h.asks (.awaited h.pid limit a))
      (.ok (a, h.learn a.status?)) s' := by
  unfold await
  cases he : h.ended with
  | some st =>
    rw [waitFor_some he] at ha
    cases ha
    simpa only [asks_some he, Awaited.status?, learn_known he] using Runs.pure _ s
  | none =>
    rw [waitFor_none he] at ha
    rw [asks_none he]
    refine (Runs.awaited ha).bind_last ?_
    cases a <;> exact .pure _ s'

theorem signal_runs (he : h.ended = none) (g : Signal) :
    Runs (h.signal host.recorded g) s [.signalled h.pid g] (.ok ()) (host.signal h.pid g s) := by
  rw [signal, if_pos he]
  exact .signalled h.pid g s

theorem signal_known {st : Status} (he : h.ended = some st) (g : Signal) :
    Runs (h.signal host.recorded g) s [] (.ok ()) s := by
  rw [signal, if_neg (by simp [he])]
  exact .pure _ s

end ServiceHandle

/-- The requests of a forced teardown after its attempt to unmount, how they end, and the state in
which they leave the machine. -/
inductive Reclaims (host : ServiceHost σ) (h : ServiceHandle) (s : σ) :
    List Event → Except Stuck ServiceHandle → σ → Prop
  | gone {st : Status} {s₁ : σ} (hp : host.look h s = (.ok (some st), s₁)) :
      Reclaims host h s (h.asks (.polled h.pid (.ok (some st)))) (.ok (h.learn (some st))) s₁
  | obeyed {p : Except SystemError (Option Status)} {a : Awaited} {s₁ s₂ : σ}
      (he : h.ended = none) (hp : host.poll h.pid s = (p, s₁)) (hn : ∀ st, p ≠ .ok (some st))
      (ha : host.await h.pid (some h.timeouts.killGrace) (host.signal h.pid .terminate s₁) =
        (a, s₂)) (hr : a ≠ .running) :
      Reclaims host h s
        [.polled h.pid p, .signalled h.pid .terminate,
          .awaited h.pid (some h.timeouts.killGrace) a] (.ok (h.learn a.status?)) s₂
  | killed {p : Except SystemError (Option Status)} {a : Awaited} {s₁ s₂ s₃ : σ}
      (he : h.ended = none) (hp : host.poll h.pid s = (p, s₁)) (hn : ∀ st, p ≠ .ok (some st))
      (ha : host.await h.pid (some h.timeouts.killGrace) (host.signal h.pid .terminate s₁) =
        (.running, s₂))
      (hk : host.await h.pid none (host.signal h.pid .kill s₂) = (a, s₃)) (hr : a ≠ .running) :
      Reclaims host h s
        [.polled h.pid p, .signalled h.pid .terminate,
          .awaited h.pid (some h.timeouts.killGrace) .running, .signalled h.pid .kill,
          .awaited h.pid none a] (.ok (h.learn a.status?)) s₃
  | hangs {p : Except SystemError (Option Status)} {s₁ s₂ s₃ : σ}
      (he : h.ended = none) (hp : host.poll h.pid s = (p, s₁)) (hn : ∀ st, p ≠ .ok (some st))
      (ha : host.await h.pid (some h.timeouts.killGrace) (host.signal h.pid .terminate s₁) =
        (.running, s₂))
      (hk : host.await h.pid none (host.signal h.pid .kill s₂) = (.running, s₃)) :
      Reclaims host h s
        [.polled h.pid p, .signalled h.pid .terminate,
          .awaited h.pid (some h.timeouts.killGrace) .running, .signalled h.pid .kill,
          .awaited h.pid none .running] (.error .waiting) s₃

namespace ServiceHandle

theorem kill_runs (he : h.ended = none) {a : Awaited} {s' : σ}
    (hk : host.await h.pid none (host.signal h.pid .kill s) = (a, s')) :
    Runs (h.kill host.recorded) s [.signalled h.pid .kill, .awaited h.pid none a]
      (if a = .running then .error .waiting else .ok (h.learn a.status?)) s' := by
  have hw := await_runs host h _ ((waitFor_none he none _).trans hk)
  rw [asks_none he] at hw
  refine (signal_runs host h s he .kill).bind (hw.bind_last ?_)
  cases a with
  | running => exact .stick _ s'
  | ended st => exact .pure _ s'
  | failed e => exact .pure _ s'

/-- What is done about a process that is not known to have ended: it is asked to end, and killed if
it does not obey. -/
def insist (host : ServiceHost σ) (h : ServiceHandle) : Act σ ServiceHandle := do
  h.signal host .terminate
  let (awaited, h) ← h.await host (some h.timeouts.killGrace)
  match awaited with
  | .running => h.kill host
  | _ => return h

theorem insist_runs {p : Except SystemError (Option Status)} {s₀ s₁ : σ} (he : h.ended = none)
    (hp : host.poll h.pid s₀ = (p, s₁)) (hn : ∀ st, p ≠ .ok (some st)) :
    ∃ es r s', Reclaims host h s₀ (.polled h.pid p :: es) r s' ∧
      Runs (h.insist host.recorded) s₁ es r s' := by
  have ht := signal_runs host h s₁ he .terminate
  rcases ha : host.await h.pid (some h.timeouts.killGrace) (host.signal h.pid .terminate s₁)
    with ⟨a, s₂⟩
  have hw := await_runs host h _ ((waitFor_none he _ _).trans ha)
  rw [asks_none he] at hw
  by_cases hr : a = .running
  · subst hr
    rcases hk : host.await h.pid none (host.signal h.pid .kill s₂) with ⟨b, s₃⟩
    have hkill := kill_runs host h s₂ he hk
    by_cases hb : b = .running
    · subst hb
      exact ⟨_, _, _, .hangs he hp hn ha hk, ht.bind (hw.bind hkill)⟩
    · rw [if_neg hb] at hkill
      exact ⟨_, _, _, .killed he hp hn ha hk hb, ht.bind (hw.bind hkill)⟩
  · refine ⟨_, _, _, .obeyed he hp hn ha hr, ht.bind (hw.bind_last ?_)⟩
    cases a with
    | running => exact absurd rfl hr
    | ended st => exact .pure _ s₂
    | failed e => exact .pure _ s₂

theorem reclaim_runs :
    ∃ es r s', Reclaims host h s es r s' ∧ Runs (h.reclaim host.recorded) s es r s' := by
  cases he : h.ended with
  | some st =>
    have hp : host.look h s = (.ok (some st), s) := look_some he s
    exact ⟨_, _, _, .gone hp, (poll_runs host h s hp).bind_last (.pure _ s)⟩
  | none =>
    rcases hp : host.poll h.pid s with ⟨p, s₁⟩
    have hl := poll_runs host h s ((look_none he s).trans hp)
    rw [asks_none he] at hl
    rcases p with e | _ | st
    · obtain ⟨es, r, s', hr, hrun⟩ := insist_runs host h he hp (by simp)
      exact ⟨_, r, s', hr, hl.bind hrun⟩
    · obtain ⟨es, r, s', hr, hrun⟩ := insist_runs host h he hp (by simp)
      exact ⟨_, r, s', hr, hl.bind hrun⟩
    · refine ⟨_, _, _, .gone ((look_none he s).trans hp), ?_⟩
      rw [asks_none he]
      exact hl.bind_last (.pure _ s₁)

theorem cleanup_runs (ht : h.state.isTerminal = false) {x : Execution} {s₁ s' : σ}
    {es : List Event} {r : Except Stuck ServiceHandle}
    (hx : host.unmount h .discarded s = (x, s₁)) (hn : x ≠ .never)
    (hr : Runs (({ h with state := .killed } : ServiceHandle).reclaim host.recorded) s₁ es r s') :
    Runs (h.cleanup host.recorded) s (h.unmountRequest .discarded x ++ es) r s' := by
  obtain ⟨v, hv⟩ := h.unmountVerdict_ok hn
  have hu := runUnmount_runs host h s true rfl hx
  rw [hv] at hu
  rw [cleanup, if_neg (by simp [ht])]
  exact hu.bind hr

theorem cleanup_hangs (ht : h.state.isTerminal = false) {s₁ : σ}
    (hx : host.unmount h .discarded s = (.never, s₁)) :
    Runs (h.cleanup host.recorded) s (h.unmountRequest .discarded .never) (.error .waiting) s₁ := by
  have hu := runUnmount_runs host h s true rfl hx
  rw [cleanup, if_neg (by simp [ht])]
  exact hu.bind_stuck

theorem cleanup_terminal (ht : h.state.isTerminal = true) :
    Runs (h.cleanup host.recorded) s [] (.ok h) s := by
  rw [cleanup, if_pos ht]
  exact .pure _ s

theorem stop_terminal (ht : h.state.isTerminal = true) :
    Runs (h.stop host.recorded) s [] (.ok (.ok (), h)) s := by
  rw [stop, if_pos ht]
  exact .pure _ s

theorem abandon_terminal (ht : h.state.isTerminal = true) :
    Runs (h.abandon host.recorded) s [] (.ok ()) s := by
  rw [abandon, if_pos ht]
  exact .pure _ s

end ServiceHandle

/-- The requests of the checks of a clean teardown, their verdict, and the state in which they
leave the machine. -/
inductive Unmounts (host : ServiceHost σ) (h : ServiceHandle) (s : σ) :
    List Event → Except Stuck (Except TeardownError Unit × ServiceHandle) → σ → Prop
  | hangs {s₁ : σ} (hx : host.unmount h .shown s = (.never, s₁)) :
      Unmounts host h s (h.unmountRequest .shown .never) (.error .waiting) s₁
  | failed {x : Execution} {e : TeardownError} {s₁ : σ}
      (hx : host.unmount h .shown s = (x, s₁)) (hv : h.unmountVerdict x = .ok (.error e)) :
      Unmounts host h s (h.unmountRequest .shown x) (.ok (.error e, h)) s₁
  | mounted {x : Execution} {s₁ s₂ : σ}
      (hx : host.unmount h .shown s = (x, s₁)) (hv : h.unmountVerdict x = .ok (.ok ()))
      (hm : host.isMounted h.mnt s₁ = (true, s₂)) :
      Unmounts host h s (h.unmountRequest .shown x ++ [.probed h.mnt true])
        (.ok (.error (.stillMounted h.mnt), h)) s₂
  | waited {x : Execution} {a : Awaited} {s₁ s₂ s₃ : σ}
      (hx : host.unmount h .shown s = (x, s₁)) (hv : h.unmountVerdict x = .ok (.ok ()))
      (hm : host.isMounted h.mnt s₁ = (false, s₂))
      (ha : host.waitFor h (some h.timeouts.stop) s₂ = (a, s₃)) :
      Unmounts host h s
        (h.unmountRequest .shown x ++
          (.probed h.mnt false :: h.asks (.awaited h.pid (some h.timeouts.stop) a)))
        (.ok (h.waitVerdict a, h.learn a.status?)) s₃

namespace ServiceHandle

theorem unmount_runs :
    ∃ es r s', Unmounts host h s es r s' ∧ Runs (h.unmount host.recorded) s es r s' := by
  rcases hx : host.unmount h .shown s with ⟨x, s₁⟩
  have hu := runUnmount_runs host h s false rfl hx
  by_cases hn : x = .never
  · subst hn
    exact ⟨_, _, _, .hangs hx, hu.bind_stuck⟩
  obtain ⟨v, hv⟩ := h.unmountVerdict_ok hn
  rw [hv] at hu
  cases v with
  | error e => exact ⟨_, _, _, .failed hx hv, hu.bind_last (.pure _ s₁)⟩
  | ok u =>
    rcases hm : host.isMounted h.mnt s₁ with ⟨m, s₂⟩
    have hq := Runs.probed hm
    cases m with
    | true => exact ⟨_, _, _, .mounted hx hv hm, hu.bind (hq.bind_last (.pure _ s₂))⟩
    | false =>
      rcases ha : host.waitFor h (some h.timeouts.stop) s₂ with ⟨a, s₃⟩
      have hw := await_runs host h s₂ ha
      refine ⟨_, _, _, .waited hx hv hm ha, hu.bind (hq.bind (hw.bind_last ?_))⟩
      cases a with
      | running => exact .pure _ s₃
      | failed e => exact .pure _ s₃
      | ended st =>
        simp only [waitVerdict]
        split <;> exact .pure _ s₃

theorem stop_clean (ht : h.state.isTerminal = false) {es : List Event} {h' : ServiceHandle}
    {s' : σ} (hu : Runs (h.unmount host.recorded) s es (.ok (.ok (), h')) s') :
    Runs (h.stop host.recorded) s es (.ok (.ok (), { h' with state := .stopped })) s' := by
  rw [stop, if_neg (by simp [ht])]
  exact hu.bind_last (.pure _ s')

theorem stop_forced (ht : h.state.isTerminal = false) {es es' : List Event} {e : TeardownError}
    {h₁ : ServiceHandle} {r : Except Stuck ServiceHandle} {s₁ s' : σ}
    (hu : Runs (h.unmount host.recorded) s es (.ok (.error e, h₁)) s₁)
    (hc : Runs (h₁.cleanup host.recorded) s₁ es' r s') :
    Runs (h.stop host.recorded) s (es ++ es') (r.map (.error e, ·)) s' := by
  rw [stop, if_neg (by simp [ht])]
  refine hu.bind ?_
  cases r with
  | error why => exact hc.bind_stuck
  | ok h' => exact hc.bind_last (.pure _ s')

theorem stop_hangs (ht : h.state.isTerminal = false) {es : List Event} {why : Stuck} {s' : σ}
    (hu : Runs (h.unmount host.recorded) s es (.error why) s') :
    Runs (h.stop host.recorded) s es (.error why) s' := by
  rw [stop, if_neg (by simp [ht])]
  exact hu.bind_stuck

theorem abandon_runs (ht : h.state.isTerminal = false) {x : Execution} {s₁ s' : σ}
    (hs : s₁ = if h.ended = none then host.signal h.pid .kill s else s)
    (hx : host.unmount h .discarded s₁ = (x, s')) (hc : h.unmountCommand ≠ []) :
    Runs (h.abandon host.recorded) s
      (h.asks (.signalled h.pid .kill) ++ h.unmountRequest .discarded x)
      (if x = .never then .error .waiting else .ok ()) s' := by
  have hk : Runs (h.signal host.recorded .kill) s (h.asks (.signalled h.pid .kill)) (.ok ())
      s₁ := by
    cases he : h.ended with
    | some st =>
      rw [asks_some he, hs, if_neg (by simp [he])]
      exact signal_known host h s he .kill
    | none =>
      rw [asks_none he, hs, if_pos he]
      exact signal_runs host h s he .kill
  rw [abandon, if_neg (by simp [ht])]
  refine hk.bind ?_
  unfold ServiceHost.unmount at hx
  unfold unmountRequest
  cases hu : h.unmountCommand with
  | nil => exact absurd hu hc
  | cons program args =>
    rw [hu] at hx
    refine (Runs.executed hx).bind_last ?_
    cases x with
    | refused e => exact .pure _ s'
    | never => exact .stick _ s'
    | ended st => exact .pure _ s'

end ServiceHandle

/-- The requests of the wait for a mount, how they end, and the state in which they leave the
machine. -/
inductive Readies (host : ServiceHost σ) (h : ServiceHandle) (deadline : Nat) :
    Nat → σ → List Event → Except Stuck (Except SetupError Unit × ServiceHandle) → σ → Prop
  | exhausted (s : σ) : Readies host h deadline 0 s [] (.error .waiting) s
  | mounted {n : Nat} {s s₁ : σ} (hm : host.isMounted h.mnt s = (true, s₁)) :
      Readies host h deadline (n + 1) s [.probed h.mnt true] (.ok (.ok (), h)) s₁
  | unreadable {n : Nat} {e : SystemError} {s s₁ s₂ : σ}
      (hm : host.isMounted h.mnt s = (false, s₁)) (hp : host.look h s₁ = (.error e, s₂)) :
      Readies host h deadline (n + 1) s
        (.probed h.mnt false :: h.asks (.polled h.pid (.error e))) (.ok (.error (.poll e), h)) s₂
  | ended {n : Nat} {st : Status} {s s₁ s₂ : σ}
      (hm : host.isMounted h.mnt s = (false, s₁)) (hp : host.look h s₁ = (.ok (some st), s₂)) :
      Readies host h deadline (n + 1) s
        (.probed h.mnt false :: h.asks (.polled h.pid (.ok (some st))))
        (.ok (.error (.prematureExit st.display), h.learn (some st))) s₂
  | late {n : Nat} {s s₁ s₂ : σ}
      (hm : host.isMounted h.mnt s = (false, s₁)) (hp : host.look h s₁ = (.ok none, s₂))
      (hd : deadline ≤ host.now s₂) :
      Readies host h deadline (n + 1) s
        (.probed h.mnt false :: h.asks (.polled h.pid (.ok none)))
        (.ok (.error (.mountTimeout h.mnt h.timeouts.mount), h)) s₂
  | again {n : Nat} {s s₁ s₂ s' : σ} {es : List Event}
      {r : Except Stuck (Except SetupError Unit × ServiceHandle)}
      (hm : host.isMounted h.mnt s = (false, s₁)) (hp : host.look h s₁ = (.ok none, s₂))
      (hd : ¬ deadline ≤ host.now s₂)
      (hr : Readies host h deadline n (host.sleep h.timeouts.pollInterval s₂) es r s') :
      Readies host h deadline (n + 1) s
        (.probed h.mnt false ::
          (h.asks (.polled h.pid (.ok none)) ++ .slept h.timeouts.pollInterval :: es)) r s'

namespace ServiceHandle

theorem waitReadyFor_runs (deadline n : Nat) :
    ∃ es r s', Readies host h deadline n s es r s' ∧
      Runs (waitReadyFor host.recorded deadline n h) s es r s' := by
  induction n generalizing s with
  | zero => exact ⟨_, _, _, .exhausted s, .stick _ s⟩
  | succ n ih =>
    rcases hm : host.isMounted h.mnt s with ⟨m, s₁⟩
    have hq := Runs.probed hm
    cases m with
    | true => exact ⟨_, _, _, .mounted hm, hq.bind_last (.pure _ s₁)⟩
    | false =>
      rcases hp : host.look h s₁ with ⟨p, s₂⟩
      have hl := poll_runs host h s₁ hp
      rcases p with e | _ | st
      · exact ⟨_, _, _, .unreadable hm hp, hq.bind (hl.bind_last (.pure _ s₂))⟩
      · by_cases hd : deadline ≤ host.now s₂
        · refine ⟨_, _, _, .late hm hp hd, hq.bind (hl.bind_last (.get_bind (fun _ ↦ rfl) ?_))⟩
          rw [ServiceHost.recorded_now, if_pos hd]
          exact .pure _ s₂
        · obtain ⟨es, r, s', hr, hrun⟩ := ih (host.sleep h.timeouts.pollInterval s₂)
          refine ⟨_, _, _, .again hm hp hd hr, hq.bind (hl.bind (.get_bind (fun _ ↦ rfl) ?_))⟩
          rw [ServiceHost.recorded_now, if_neg hd]
          exact (Runs.slept _ s₂).bind hrun
      · exact ⟨_, _, _, .ended hm hp, hq.bind (hl.bind_last (.pure _ s₂))⟩

/-- The wait for a mount either is a wait up to the deadline or, if the clock cannot express the
deadline, drops the handle. -/
theorem waitReady_runs {deadline : Nat}
    (hd : deadline? (host.now s) h.timeouts.mount = some deadline) :
    ∃ es r s', Readies host h deadline (h.timeouts.mount.nanos + 2) s es r s' ∧
      Runs (h.waitReady host.recorded) s es r s' := by
  obtain ⟨es, r, s', hr, hrun⟩ := waitReadyFor_runs host h s deadline (h.timeouts.mount.nanos + 2)
  refine ⟨es, r, s', hr, .get_bind (fun _ ↦ rfl) ?_⟩
  rw [ServiceHost.recorded_now, hd]
  exact hrun

theorem waitReady_overflow (hd : deadline? (host.now s) h.timeouts.mount = none) {es : List Event}
    {r : Except Stuck Unit} {s' : σ} (ha : Runs (h.abandon host.recorded) s es r s') :
    ∃ why, (why = .waiting ↔ r = .error .waiting) ∧
      Runs (h.waitReady host.recorded) s es (.error why) s' := by
  cases r with
  | error why =>
    refine ⟨why, by simp, .get_bind (fun _ ↦ rfl) ?_⟩
    rw [ServiceHost.recorded_now, hd]
    exact ha.bind_stuck
  | ok u =>
    refine ⟨.overflow, by simp, .get_bind (fun _ ↦ rfl) ?_⟩
    rw [ServiceHost.recorded_now, hd]
    exact ha.bind_last (.stick _ s')

theorem settle_ready {es : List Event} {h₁ : ServiceHandle} {s' : σ}
    (hw : Runs (h.waitReady host.recorded) s es (.ok (.ok (), h₁)) s') :
    Runs (h.settle host.recorded) s es (.ok (.ok (), { h₁ with state := .active })) s' :=
  hw.bind_last (.pure _ s')

theorem settle_failed {es es' : List Event} {e : SetupError} {h₁ : ServiceHandle}
    {r : Except Stuck ServiceHandle} {s₁ s' : σ}
    (hw : Runs (h.waitReady host.recorded) s es (.ok (.error e, h₁)) s₁)
    (hc : Runs (h₁.cleanup host.recorded) s₁ es' r s') :
    Runs (h.settle host.recorded) s (es ++ es') (r.map (.error e, ·)) s' := by
  refine hw.bind ?_
  cases r with
  | error why => exact hc.bind_stuck
  | ok h' => exact hc.bind_last (.pure _ s')

theorem settle_hangs {es : List Event} {why : Stuck} {s' : σ}
    (hw : Runs (h.waitReady host.recorded) s es (.error why) s') :
    Runs (h.settle host.recorded) s es (.error why) s' := hw.bind_stuck

end ServiceHandle

/-- The requests of a launch, its result, and the state in which it leaves the machine. -/
inductive Launches (host : ServiceHost σ) (l : ServiceLauncher) (v : Variant) (dirs : ServiceDirs) :
    List Event → Except Error ServiceHandle → σ → Prop
  | refused {es : List Event} {e : Error} {s' : σ}
      (he : es = [] ∨ es = [.changedFiles] ∨
        ∃ c x, es = [.changedFiles, .spawned c .captured (.error x)]) :
      Launches host l v dirs es (.error e) s'
  | started {options : ServiceOptions} {program : String} {args : List String} {pid : Pid}
      {s₁ s' : σ} (ho : v.options = .ok options) (hc : l.commandLine v dirs = .ok (program :: args))
      (hs : host.spawn (l.command program args) .captured s₁ = (.ok pid, s')) :
      Launches host l v dirs
        [.changedFiles, .spawned (l.command program args) .captured (.ok pid)]
        (.ok
          { pid, src := dirs.src, mnt := dirs.mnt, cacheTimeout := options.cacheTimeout
            unmountCommand := l.service.unmountCommand, timeouts := l.timeouts }) s'

namespace ServiceLauncher

variable (l : ServiceLauncher) (v : Variant) (dirs : ServiceDirs)

theorem launch_runs :
    ∃ es r s', Launches host l v dirs es r s' ∧
      Runs (l.launch host.recorded v dirs) s es (.ok r) s' := by
  unfold launch
  cases ho : v.options with
  | error e => exact ⟨_, _, _, .refused (.inl rfl), .pure _ s⟩
  | ok options =>
    rcases hw : options.nameMap.writeMappingFiles dirs.conf (host.files s) with ⟨w, files⟩
    have hp : Runs (prepare host.recorded options.nameMap dirs.conf) s [.changedFiles] (.ok w)
        (host.setFiles files s) :=
      .ask fun log ↦ by simp [ServiceHost.recorded, hw]
    cases w with
    | error e => exact ⟨_, _, _, .refused (.inr (.inl rfl)), hp.bind_last (.pure _ _)⟩
    | ok u =>
      dsimp only
      rcases hc : l.commandLine v dirs with e | _ | ⟨program, args⟩
      · exact ⟨_, _, _, .refused (.inr (.inl rfl)), hp.bind_last (.pure _ _)⟩
      · exact ⟨_, _, _, .refused (.inr (.inl rfl)), hp.bind_last (.pure _ _)⟩
      · rcases hs : host.spawn (l.command program args) .captured (host.setFiles files s)
          with ⟨p, s'⟩
        have hq := Runs.spawned hs
        cases p with
        | error e =>
          exact ⟨_, _, _, .refused (.inr (.inr ⟨_, e, rfl⟩)), hp.bind (hq.bind_last (.pure _ s'))⟩
        | ok pid =>
          exact ⟨_, _, _, .started ho hc hs, hp.bind (hq.bind_last (.pure _ s'))⟩

def settled : Except SetupError Unit × ServiceHandle → Except Error ServiceHandle
  | (.error e, _) => .error (.setup e)
  | (.ok (), h) => .ok h

theorem start_settled {es es' : List Event} {h : ServiceHandle}
    {r : Except Stuck (Except SetupError Unit × ServiceHandle)} {s₁ s' : σ}
    (hl : Runs (l.launch host.recorded v dirs) s es (.ok (.ok h)) s₁)
    (hr : Runs (h.settle host.recorded) s₁ es' r s') :
    Runs (l.start host.recorded v dirs) s (es ++ es') (r.map settled) s' := by
  refine hl.bind ?_
  rcases r with why | ⟨e | u, h'⟩
  · exact hr.bind_stuck
  · exact hr.bind_last (.pure _ s')
  · exact hr.bind_last (.pure _ s')

end ServiceLauncher

end MountSweep
