import MountSweep.Proofs.Service.Calls
import MountSweep.Proofs.Service.Machine
import MountSweep.Proofs.Service.Recording

namespace MountSweep

open Posix Time

variable {σ : Type} {host : ServiceHost σ} {child : Pid → σ → Prop}
variable {h : ServiceHandle} {s s' : σ} {es us : List Event}

/-- What the checks of a clean teardown find, one after the other. -/
structure Checks where
  unmounted : Execution
  mounted : Bool
  awaited : Awaited

def ServiceHost.checks (host : ServiceHost σ) (h : ServiceHandle) (s : σ) : Checks :=
  let (unmounted, s₁) := host.unmount h .shown s
  let (mounted, s₂) := host.isMounted h.mnt s₁
  { unmounted, mounted, awaited := (host.waitFor h (some h.timeouts.stop) s₂).1 }

namespace Checks

/-- The unmount command ran and exited with zero, nothing is mounted, and the process ended in
time and exited with zero. -/
structure Pass (c : Checks) : Prop where
  unmounted : c.unmounted = .ended (.exited 0)
  mounted : c.mounted = false
  awaited : c.awaited = .ended (.exited 0)

inductive FirstFailure (h : ServiceHandle) (c : Checks) : TeardownError → Prop
  | refused {e : SystemError} (hu : c.unmounted = .refused e) :
      FirstFailure h c (.unmountSpawn (" ".intercalate h.unmountCommand) e)
  | failed {st : Status} (hu : c.unmounted = .ended st) (hs : st ≠ .exited 0) :
      FirstFailure h c (.unmountFailed (" ".intercalate h.unmountCommand) st.display)
  | mounted (hu : c.unmounted = .ended (.exited 0)) (hm : c.mounted = true) :
      FirstFailure h c (.stillMounted h.mnt)
  | late (hu : c.unmounted = .ended (.exited 0)) (hm : c.mounted = false)
      (ha : c.awaited = .running) : FirstFailure h c (.didNotTerminate h.timeouts.stop)
  | lost {e : SystemError} (hu : c.unmounted = .ended (.exited 0)) (hm : c.mounted = false)
      (ha : c.awaited = .failed e) : FirstFailure h c (.wait e)
  | abnormal {st : Status} (hu : c.unmounted = .ended (.exited 0)) (hm : c.mounted = false)
      (ha : c.awaited = .ended st) (hs : st ≠ .exited 0) :
      FirstFailure h c (.abnormal st.code? st.display)

variable {c : Checks} {e e' : TeardownError}

theorem Pass.not_firstFailure (hp : c.Pass) : ¬ FirstFailure h c e := by
  intro hf
  obtain ⟨hpu, hpm, hpa⟩ := hp
  cases hf <;> simp_all

theorem FirstFailure.unique (hf : FirstFailure h c e) (hf' : FirstFailure h c e') : e = e' := by
  cases hf <;> cases hf' <;> simp_all

/-- A verdict: the checks pass, or it is the error of the first that fails. -/
inductive Verdict (h : ServiceHandle) (c : Checks) : Except TeardownError Unit → Prop
  | pass (hp : c.Pass) : Verdict h c (.ok ())
  | fail {e : TeardownError} (hf : FirstFailure h c e) : Verdict h c (.error e)

theorem Verdict.ok_iff {v : Except TeardownError Unit} (hv : Verdict h c v) :
    v = .ok () ↔ c.Pass := by
  cases hv with
  | pass hp => exact ⟨fun _ ↦ hp, fun _ ↦ rfl⟩
  | fail hf => exact ⟨nofun, fun hp ↦ absurd hf hp.not_firstFailure⟩

theorem Verdict.error_iff {v : Except TeardownError Unit} (hv : Verdict h c v)
    (e : TeardownError) : v = .error e ↔ FirstFailure h c e := by
  cases hv with
  | pass hp => exact ⟨nofun, fun hf ↦ absurd hf hp.not_firstFailure⟩
  | fail hf =>
    refine ⟨fun he ↦ ?_, fun hf' ↦ ?_⟩
    · cases he
      exact hf
    · rw [hf.unique hf']

end Checks

/-- The verdict of a clean teardown is that of its checks; it is not a success unless the process
is known to have ended with one. -/
theorem Unmounts.verdict {v : Except TeardownError Unit} {h' : ServiceHandle}
    (hu : Unmounts host h s es (.ok (v, h')) s') :
    (host.checks h s).Verdict h v ∧ (v = .ok () → h'.ended = some (.exited 0)) := by
  cases hu with
  | @failed x e _ hu hv =>
    have hx : (host.checks h s).unmounted = x := by simp [ServiceHost.checks, hu]
    refine ⟨.fail ?_, fun hok ↦ by cases hok⟩
    obtain ⟨e', rfl, rfl⟩ | ⟨st, rfl, hst, rfl⟩ := ServiceHandle.unmountVerdict_error hv
    · exact .refused hx
    · exact .failed hx hst
  | @mounted x s₁ _ hu hv hm =>
    rw [ServiceHandle.unmountVerdict_success.mp hv] at hu
    refine ⟨.fail (.mounted ?_ ?_), fun hok ↦ by cases hok⟩
    · simp [ServiceHost.checks, hu]
    · simp [ServiceHost.checks, hu, hm]
  | @waited x a s₁ s₂ _ hu hv hm ha =>
    rw [ServiceHandle.unmountVerdict_success.mp hv] at hu
    have hchecks : host.checks h s = ⟨.ended (.exited 0), false, a⟩ := by
      simp [ServiceHost.checks, hu, hm, ha]
    rw [hchecks]
    cases a with
    | running => exact ⟨.fail (.late rfl rfl rfl), fun hok ↦ by cases hok⟩
    | failed e => exact ⟨.fail (.lost rfl rfl rfl), fun hok ↦ by cases hok⟩
    | ended st =>
      by_cases hst : st = .exited 0
      · subst hst
        exact ⟨.pass ⟨rfl, rfl, rfl⟩, fun _ ↦ rfl⟩
      · rw [ServiceHandle.waitVerdict, if_neg (mt st.isSuccess_iff.mp hst)]
        exact ⟨.fail (.abnormal rfl rfl rfl hst), fun hok ↦ by cases hok⟩

/-- Signals to a process are measured: `SIGTERM` at most once, right after a look has found it
running; `SIGKILL` at most once, when it has outlived the grace period after `SIGTERM`; and none
once it has been reaped. -/
structure Measured (pid : Pid) (grace : Span) (es : List Event) : Prop where
  order : signals es <+: [(pid, .terminate), (pid, .kill)]
  terminate {before after : List Event} : es = before ++ .signalled pid .terminate :: after →
    before.getLast? = some (.polled pid (.ok none))
  kill {before after : List Event} : es = before ++ .signalled pid .kill :: after →
    before.getLast? = some (.awaited pid (some grace) .running)
  unfound {before after : List Event} {g : Signal} : es = before ++ .signalled pid g :: after →
    ∀ st, ¬ Found pid st before

namespace Measured

variable {pid : Pid} {grace : Span}

theorem of_silent (hs : signals es = []) : Measured pid grace es := by
  have hn {before after : List Event} {p : Pid} {g : Signal} :
      es ≠ before ++ .signalled p g :: after := by
    rintro rfl
    simp [Event.signal?] at hs
  exact ⟨by simp [hs], fun h ↦ absurd h hn, fun h ↦ absurd h hn, fun h ↦ absurd h hn⟩

theorem split_append {pre core before after : List Event} {p : Pid} {g : Signal}
    (hs : signals pre = []) (h : pre ++ core = before ++ .signalled p g :: after) :
    ∃ b, before = pre ++ b ∧ core = b ++ .signalled p g :: after := by
  rcases List.append_eq_append_iff.mp h with ⟨b, hb, hc⟩ | ⟨b, hb, hc⟩
  · exact ⟨b, hb, hc⟩
  · cases b with
    | nil => exact ⟨[], by simpa using hb.symm, by simpa using hc.symm⟩
    | cons x b =>
      rw [List.cons_append, List.cons.injEq] at hc
      rw [hb, ← hc.1] at hs
      simp [Event.signal?] at hs

theorem append {pre core : List Event} (hs : signals pre = [])
    (hf : ∀ st, ¬ Found pid st pre) (hm : Measured pid grace core) :
    Measured pid grace (pre ++ core) := by
  refine ⟨?_, fun h ↦ ?_, fun h ↦ ?_, fun h st ↦ ?_⟩
  · rw [signals_append, hs, List.nil_append]
    exact hm.order
  · obtain ⟨b, rfl, hc⟩ := split_append hs h
    rw [List.getLast?_append, hm.terminate hc, Option.some_or]
  · obtain ⟨b, rfl, hc⟩ := split_append hs h
    rw [List.getLast?_append, hm.kill hc, Option.some_or]
  · obtain ⟨b, rfl, hc⟩ := split_append hs h
    rw [found_append]
    exact not_or.mpr ⟨hf st, hm.unfound hc st⟩

theorem obeyed (a : Awaited) :
    Measured pid grace
      [.polled pid (.ok none), .signalled pid .terminate, .awaited pid (some grace) a] := by
  refine ⟨by simp [Event.signal?], fun h ↦ ?_, fun h ↦ ?_, fun h st ↦ ?_⟩ <;>
    simp [List.cons_eq_append_iff, Signal.terminate, Signal.kill] at h
  · simp [h]
  · simp [h, Event.end?]

theorem killed (a : Awaited) :
    Measured pid grace
      [.polled pid (.ok none), .signalled pid .terminate, .awaited pid (some grace) .running,
        .signalled pid .kill, .awaited pid none a] := by
  refine ⟨by simp [Event.signal?], fun h ↦ ?_, fun h ↦ ?_, fun h st ↦ ?_⟩ <;>
    simp [List.cons_eq_append_iff, Signal.terminate, Signal.kill] at h
  · simp [h]
  · simp [h]
  · obtain ⟨b, rfl, ⟨rfl, -⟩ | ⟨rfl, -⟩⟩ := h <;> simp [Event.end?]

end Measured

/-- How a process has been got rid of: the end that a handle knows has been found, before or by
these requests, and the signals were measured. -/
structure Reaped (h : ServiceHandle) (st : Status) (es : List Event) : Prop where
  found : h.ended = some st ∨ Found h.pid st es
  measured : Measured h.pid h.timeouts.killGrace es
  silent : h.ended ≠ none → signals es = []

/-- What happens before a process is got rid of: no signal is sent, and its end is found exactly if
the handle learns of it. -/
structure Quiet (h : ServiceHandle) (o : Option Status) (us : List Event) : Prop where
  silent : signals us = []
  found {st : Status} : o = some st → h.ended = some st ∨ Found h.pid st us
  unfound : o = none → ∀ st, ¬ Found h.pid st us

theorem Quiet.reaped {o : Option Status} {st : Status} (hq : Quiet h o us)
    (hr : Reaped (h.learn o) st es) : Reaped h st (us ++ es) := by
  cases o with
  | none =>
    refine ⟨hr.found.imp_right fun hf ↦ ?_, .append hq.silent (hq.unfound rfl) hr.measured,
      fun he ↦ ?_⟩
    · exact (found_append ..).mpr (.inr hf)
    · rw [signals_append, hq.silent, List.nil_append]
      exact hr.silent he
  | some st' =>
    have hs : signals (us ++ es) = [] := by
      rw [signals_append, hq.silent, List.nil_append]
      exact hr.silent (by simp [ServiceHandle.learn])
    refine ⟨?_, .of_silent hs, fun _ ↦ hs⟩
    rcases hr.found with he | hf
    · cases he
      exact (hq.found rfl).imp_right fun hf ↦ (found_append ..).mpr (.inl hf)
    · exact .inr ((found_append ..).mpr (.inr hf))

theorem Quiet.nil : Quiet h none [] :=
  ⟨rfl, nofun, fun _ st ↦ found_nil h.pid st⟩

theorem Quiet.cons {o : Option Status} {e : Event} (hs : e.signal? = none)
    (he : e.end? h.pid = none) (hq : Quiet h o us) : Quiet h o (e :: us) := by
  refine ⟨by simp [hs, hq.silent], fun ho ↦ ?_, fun ho st ↦ ?_⟩
  · simpa [he] using hq.found ho
  · simpa [he] using hq.unfound ho st

theorem Quiet.unmountRequest (k : Sink) (x : Execution) {o : Option Status} (hq : Quiet h o us) :
    Quiet h o (h.unmountRequest k x ++ us) := by
  unfold ServiceHandle.unmountRequest
  cases h.unmountCommand with
  | nil => exact hq
  | cons program args => exact .cons rfl rfl hq

theorem Quiet.awaited {limit : Option Span} {a : Awaited} (ha : host.waitFor h limit s = (a, s')) :
    Quiet h a.status? (h.asks (.awaited h.pid limit a)) := by
  cases he : h.ended with
  | some st =>
    rw [ServiceHandle.waitFor_some he] at ha
    cases ha
    rw [ServiceHandle.asks_some he]
    refine ⟨rfl, fun ho ↦ .inl ?_, nofun⟩
    cases ho
    exact he
  | none =>
    rw [ServiceHandle.asks_none he]
    cases a with
    | ended st => exact ⟨rfl, fun ho ↦ .inr (by cases ho; simp [Event.end?]), nofun⟩
    | failed e => exact .cons rfl rfl .nil
    | running => exact .cons rfl rfl .nil

namespace ServiceHandle

def Guards (h : ServiceHandle) (child : Pid → σ → Prop) (s : σ) : Prop :=
  h.ended = none → child h.pid s

theorem reclaim_reaps (hr : host.Reliable child) (hc : h.Guards child s) :
    ∃ es st s', Runs (h.reclaim host.recorded) s es (.ok (h.learn (some st))) s' ∧
      Reaped h st es := by
  obtain ⟨es, r, s', hrec, hrun⟩ := reclaim_runs host h s
  cases hrec with
  | @gone st _ hp =>
    refine ⟨_, st, s', hrun, ?_⟩
    cases he : h.ended with
    | some st' =>
      rw [look_some he] at hp
      cases hp
      rw [asks_some he]
      exact ⟨.inl he, .of_silent rfl, fun _ ↦ rfl⟩
    | none =>
      rw [asks_none he]
      exact ⟨.inr (by simp [Event.end?]), .of_silent rfl, fun _ ↦ rfl⟩
  | @obeyed p a s₁ _ he hp hn ha hrun' =>
    obtain ⟨st, rfl⟩ | ⟨rfl, hc₁⟩ := hr.polled hp (hc he)
    · exact absurd rfl (hn st)
    obtain ⟨st, rfl⟩ | ⟨rfl, -⟩ := hr.awaited ha (hr.signalled hc₁)
    · exact ⟨_, st, s', hrun, .inr (by simp [Event.end?]), .obeyed _, fun hne ↦ absurd he hne⟩
    · exact absurd rfl hrun'
  | @killed p a s₁ s₂ _ he hp hn ha hk hrun' =>
    obtain ⟨st, rfl⟩ | ⟨rfl, hc₁⟩ := hr.polled hp (hc he)
    · exact absurd rfl (hn st)
    obtain ⟨st, hst⟩ | ⟨-, hc₂⟩ := hr.awaited ha (hr.signalled hc₁)
    · cases hst
    obtain ⟨st, rfl⟩ := hr.killed hk hc₂
    exact ⟨_, st, s', hrun, .inr (by simp [Event.end?]), .killed _, fun hne ↦ absurd he hne⟩
  | @hangs p s₁ s₂ _ he hp hn ha hk =>
    obtain ⟨st, rfl⟩ | ⟨rfl, hc₁⟩ := hr.polled hp (hc he)
    · exact absurd rfl (hn st)
    obtain ⟨st, hst⟩ | ⟨-, hc₂⟩ := hr.awaited ha (hr.signalled hc₁)
    · cases hst
    obtain ⟨st, hst⟩ := hr.killed hk hc₂
    cases hst

theorem unmount_ends (hx : host.CommandsEnd) {k : Sink} {x : Execution}
    (hu : host.unmount h k s = (x, s')) : x ≠ .never := by
  unfold ServiceHost.unmount at hu
  cases hc : h.unmountCommand with
  | nil =>
    rw [hc] at hu
    cases hu
    exact nofun
  | cons program args =>
    rw [hc] at hu
    obtain rfl : _ = x := congrArg Prod.fst hu
    exact hx _ k s

theorem Guards.unmounted (hr : host.Reliable child) (hc : h.Guards child s) {k : Sink}
    {x : Execution} (hu : host.unmount h k s = (x, s')) : h.Guards child s' := by
  intro he
  unfold ServiceHost.unmount at hu
  cases hcmd : h.unmountCommand with
  | nil =>
    rw [hcmd] at hu
    cases hu
    exact hc he
  | cons program args =>
    rw [hcmd] at hu
    exact hr.executed hu (hc he)

theorem Guards.waited (hr : host.Reliable child) (hc : h.Guards child s) {limit : Option Span}
    {a : Awaited} (ha : host.waitFor h limit s = (a, s')) :
    (∃ st, a = .ended st) ∨ (a = .running ∧ h.Guards child s') := by
  cases he : h.ended with
  | some st =>
    rw [waitFor_some he] at ha
    cases ha
    exact .inl ⟨st, rfl⟩
  | none =>
    rw [waitFor_none he] at ha
    exact (hr.awaited ha (hc he)).imp_right fun ⟨hrun, hc'⟩ ↦ ⟨hrun, fun _ ↦ hc'⟩

theorem cleanup_reaps (hr : host.Reliable child) (hx : host.CommandsEnd)
    (ht : h.state.isTerminal = false) (hc : h.Guards child s) :
    ∃ es h' st s', Runs (h.cleanup host.recorded) s es (.ok h') s' ∧ h'.state = .killed ∧
      h'.ended = some st ∧ Reaped h st es := by
  rcases hu : host.unmount h .discarded s with ⟨x, s₁⟩
  have hg : ({ h with state := .killed } : ServiceHandle).Guards child s₁ :=
    Guards.unmounted hr hc hu
  obtain ⟨es, st, s', hrun, hreap⟩ := reclaim_reaps hr hg
  refine ⟨_, _, st, s', cleanup_runs host h s ht hu (unmount_ends hx hu) hrun, by simp, rfl, ?_⟩
  have hq : Quiet h none (h.unmountRequest .discarded x) := by
    simpa using Quiet.nil.unmountRequest .discarded x
  exact hq.reaped ⟨hreap.found, hreap.measured, hreap.silent⟩

/-- The checks of a clean teardown come to an end; what they find of the process on the way the
handle learns. -/
theorem unmount_quiet (hr : host.Reliable child) (hx : host.CommandsEnd)
    (hc : h.Guards child s) :
    ∃ es v o s', Unmounts host h s es (.ok (v, h.learn o)) s' ∧
      Runs (h.unmount host.recorded) s es (.ok (v, h.learn o)) s' ∧ Quiet h o es ∧
      (h.learn o).Guards child s' := by
  obtain ⟨es, r, s', hcase, hrun⟩ := unmount_runs host h s
  cases hcase with
  | hangs hu => exact absurd rfl (unmount_ends hx hu)
  | @failed x e _ hu hv =>
    have hq : Quiet h none (h.unmountRequest .shown x) := by
      simpa using Quiet.nil.unmountRequest .shown x
    exact ⟨_, _, none, s', .failed hu hv, hrun, hq, hc.unmounted hr hu⟩
  | @mounted x s₁ _ hu hv hm =>
    exact ⟨_, _, none, s', .mounted hu hv hm, hrun, .unmountRequest .shown x (.cons rfl rfl .nil),
      fun he ↦ hr.probed hm (hc.unmounted hr hu he)⟩
  | @waited x a s₁ s₂ _ hu hv hm ha =>
    have hg : h.Guards child s₂ := fun he ↦ hr.probed hm (hc.unmounted hr hu he)
    refine ⟨_, _, a.status?, s', .waited hu hv hm ha, hrun,
      .unmountRequest .shown x (.cons rfl rfl (.awaited ha)), ?_⟩
    obtain ⟨st, rfl⟩ | ⟨rfl, hg'⟩ := hg.waited hr ha
    · exact nofun
    · exact hg'

/-- A clean teardown reports the verdict of its checks and leaves no process behind; it sends
signals only if a check has failed. -/
theorem stop_judges (hr : host.Reliable child) (hx : host.CommandsEnd)
    (ht : h.state.isTerminal = false) (hc : h.Guards child s) :
    ∃ es v h' st s', Runs (h.stop host.recorded) s es (.ok (v, h')) s' ∧
      (host.checks h s).Verdict h v ∧ (v = .ok () → h'.state = .stopped ∧ signals es = []) ∧
      (∀ e, v = .error e → h'.state = .killed) ∧ h'.ended = some st ∧ Reaped h st es := by
  obtain ⟨us, v, o, s₁, hu, hrun, hq, hg⟩ := unmount_quiet hr hx hc
  obtain ⟨hv, hok⟩ := hu.verdict
  cases v with
  | ok u =>
    have hended := hok rfl
    have hfound : h.ended = some (.exited 0) ∨ Found h.pid (.exited 0) us := by
      cases o with
      | none => exact .inl hended
      | some st =>
        cases hended
        exact hq.found rfl
    exact ⟨us, _, _, .exited 0, s₁, stop_clean host h s ht hrun, hv, fun _ ↦ ⟨rfl, hq.silent⟩,
      nofun, hended, ⟨hfound, .of_silent hq.silent, fun _ ↦ hq.silent⟩⟩
  | error e =>
    obtain ⟨es, h', st, s', hclean, hstate, hended, hreap⟩ :=
      cleanup_reaps hr hx (by rwa [learn_state]) hg
    exact ⟨us ++ es, _, h', st, s', stop_forced host h s ht hrun hclean, hv, nofun,
      fun _ _ ↦ hstate, hended, hq.reaped hreap⟩

/-- A wait for the mount that comes to an end has sent no signal, and what it has found of the
process the handle has learned. -/
theorem readies_quiet (hr : host.Reliable child) (he : h.ended = none) {deadline n : ℕ}
    {r : Except Stuck (Except SetupError Unit × ServiceHandle)}
    (hw : Readies host h deadline n s es r s') (hc : child h.pid s)
    {v : Except SetupError Unit} {h₁ : ServiceHandle} (hv : r = .ok (v, h₁)) :
    ∃ o, h₁ = h.learn o ∧ Quiet h o es ∧ (h.learn o).Guards child s' := by
  induction hw with
  | exhausted s => cases hv
  | mounted hm =>
    cases hv
    exact ⟨none, rfl, .cons rfl rfl .nil, fun _ ↦ hr.probed hm hc⟩
  | unreadable hm hp =>
    obtain ⟨st, hst⟩ | ⟨hst, -⟩ := hr.polled ((look_none he _).symm.trans hp) (hr.probed hm hc)
    · cases hst
    · cases hst
  | @ended n st s s₁ s₂ hm hp =>
    cases hv
    rw [asks_none he]
    exact ⟨some st, rfl, .cons rfl rfl ⟨rfl, fun ho ↦ .inr (by cases ho; simp [Event.end?]), nofun⟩,
      nofun⟩
  | late hm hp hd =>
    obtain ⟨st, hst⟩ | ⟨-, hc'⟩ := hr.polled ((look_none he _).symm.trans hp) (hr.probed hm hc)
    · cases hst
    cases hv
    rw [asks_none he]
    exact ⟨none, rfl, .cons rfl rfl (.cons rfl rfl .nil), fun _ ↦ hc'⟩
  | again hm hp hd hw ih =>
    obtain ⟨st, hst⟩ | ⟨-, hc'⟩ := hr.polled ((look_none he _).symm.trans hp) (hr.probed hm hc)
    · cases hst
    obtain ⟨o, ho, hq, hg⟩ := ih (hr.slept hc') hv
    rw [asks_none he]
    exact ⟨o, ho, .cons rfl rfl (.cons rfl rfl (.cons rfl rfl hq)), hg⟩

end ServiceHandle

namespace ServiceLauncher

variable {l : ServiceLauncher} {v : Variant} {dirs : ServiceDirs}

/-- A launch sends no signal and finds nothing about its process, which becomes a child. -/
theorem launch_quiet (hr : host.Reliable child)
    (hl : (l.launch host v dirs).run s = (.ok (.ok h), s')) :
    ∃ es, Runs (l.launch host.recorded v dirs) s es (.ok (.ok h)) s' ∧ h.ended = none ∧
      h.state = .starting ∧ child h.pid s' ∧ Quiet h none es := by
  obtain ⟨es, hc, hrun⟩ := launch_returns host l v dirs hl
  cases hc with
  | started ho hc hs =>
    exact ⟨_, hrun, rfl, rfl, hr.spawned hs, .cons rfl rfl (.cons rfl rfl .nil)⟩

theorem start_reaps (hr : host.Reliable child) (hx : host.CommandsEnd) {s₁ s₂ : σ}
    {h₁ : ServiceHandle} {e : SetupError} (hl : (l.launch host v dirs).run s = (.ok (.ok h), s₁))
    (hw : (h.waitReady host).run s₁ = (.ok (.error e, h₁), s₂)) :
    ∃ es st s', Runs (l.start host.recorded v dirs) s es (.ok (.error (.setup e))) s' ∧
      Reaped h st es := by
  obtain ⟨ls, hlrun, he, hstate, hc, hlq⟩ := launch_quiet hr hl
  obtain ⟨deadline, ws, hreadies, hwrun⟩ := ServiceHandle.waitReady_returns host h hw
  obtain ⟨o, rfl, hwq, hg⟩ := ServiceHandle.readies_quiet hr he hreadies hc rfl
  obtain ⟨es, h', st, s', hclean, -, -, hreap⟩ :=
    ServiceHandle.cleanup_reaps hr hx (by simp [hstate, ServiceState.isTerminal]) hg
  have hsettle := ServiceHandle.settle_failed host h s₁ hwrun hclean
  exact ⟨ls ++ (ws ++ es), st, s', start_settled host s l v dirs hlrun hsettle,
    hlq.reaped (hwq.reaped hreap)⟩

theorem start_guards (hr : host.Reliable child)
    (hs : (l.start host v dirs).run s = (.ok (.ok h), s')) :
    h.state = .active ∧ h.Guards child s' := by
  obtain ⟨h₀, s₁, h₁, hl, hw, rfl⟩ := start_returns host l v dirs hs
  obtain ⟨-, -, he, -, hc, -⟩ := launch_quiet hr hl
  obtain ⟨deadline, ws, hreadies, -⟩ := ServiceHandle.waitReady_returns host h₀ hw
  obtain ⟨o, rfl, -, hg⟩ := ServiceHandle.readies_quiet hr he hreadies hc rfl
  exact ⟨rfl, hg⟩

end ServiceLauncher

/-- On a reliable machine a clean teardown succeeds exactly if its three checks pass, and then
without a signal; otherwise it reports the first check that fails and the service counts as
killed. When a teardown of either kind returns, or a start whose mount has not come up, the process
has been reaped by measured signals. A service that has been started is one that this is about. -/
theorem teardown_verdict_and_reclaim (hr : host.Reliable child) (hx : host.CommandsEnd) :
    (∀ h s, h.state.isTerminal = false → h.Guards child s →
      ∃ es v h' st s', Runs (h.stop host.recorded) s es (.ok (v, h')) s' ∧
        (h.stop host).run s = (.ok (v, h'), s') ∧
        (v = .ok () ↔ (host.checks h s).Pass) ∧
        (∀ e, v = .error e ↔ (host.checks h s).FirstFailure h e) ∧
        (v = .ok () → h'.state = .stopped ∧ signals es = []) ∧
        (∀ e, v = .error e → h'.state = .killed) ∧
        h'.ended = some st ∧ Reaped h st es) ∧
    (∀ h s, h.state.isTerminal = false → h.Guards child s →
      ∃ es h' st s', Runs (h.cleanup host.recorded) s es (.ok h') s' ∧
        (h.cleanup host).run s = (.ok h', s') ∧ h'.state = .killed ∧
        h'.ended = some st ∧ Reaped h st es) ∧
    (∀ (l : ServiceLauncher) v dirs s h s₁ e h₁ s₂,
      (l.launch host v dirs).run s = (.ok (.ok h), s₁) →
      (h.waitReady host).run s₁ = (.ok (.error e, h₁), s₂) →
      ∃ es st s', Runs (l.start host.recorded v dirs) s es (.ok (.error (.setup e))) s' ∧
        (l.start host v dirs).run s = (.ok (.error (.setup e)), s') ∧ Reaped h st es) ∧
    (∀ (l : ServiceLauncher) v dirs s h s', (l.start host v dirs).run s = (.ok (.ok h), s') →
      h.state = .active ∧ h.Guards child s') := by
  refine ⟨fun h s ht hc ↦ ?_, fun h s ht hc ↦ ?_, fun l v dirs s h s₁ e h₁ s₂ hl hw ↦ ?_,
    fun l v dirs s h s' hs ↦ ServiceLauncher.start_guards hr hs⟩
  · obtain ⟨es, v, h', st, s', hrun, hv, hok, herr, hended, hreap⟩ :=
      ServiceHandle.stop_judges hr hx ht hc
    exact ⟨es, v, h', st, s', hrun, (ServiceHandle.stop_mirrors host h).run_eq hrun, hv.ok_iff,
      hv.error_iff, hok, herr, hended, hreap⟩
  · obtain ⟨es, h', st, s', hrun, hstate, hended, hreap⟩ :=
      ServiceHandle.cleanup_reaps hr hx ht hc
    exact ⟨es, h', st, s', hrun, (ServiceHandle.cleanup_mirrors host h).run_eq hrun, hstate, hended,
      hreap⟩
  · obtain ⟨es, st, s', hrun, hreap⟩ := ServiceLauncher.start_reaps hr hx hl hw
    exact ⟨es, st, s', hrun, (ServiceLauncher.start_mirrors host l v dirs).run_eq hrun, hreap⟩

def ServiceHandle.sample : ServiceHandle :=
  { pid := 1, src := [], mnt := [], cacheTimeout := 0, state := .active
    unmountCommand := ["umount"], timeouts := {} }

/-- A process that does not obey is reported and does not survive, nor does one that mounts
nothing. -/
theorem stubborn_process_reclaimed :
    Ward.stubborn.Reliable (fun _ _ ↦ True) ∧ Ward.stubborn.CommandsEnd ∧
      (∃ es h' st s', Runs (ServiceHandle.sample.stop Ward.stubborn.recorded) { mounted := true }
        es (.ok (.error (.didNotTerminate (.ofSecs 30)), h')) s' ∧ h'.state = .killed ∧
        h'.ended = some st ∧ Reaped ServiceHandle.sample st es) ∧
      ∃ es e h st s', Runs (Ward.launcher.start Ward.stubborn.recorded ⟨[]⟩ ⟨[], [], []⟩)
        { mounted := false } es (.ok (.error (.setup e))) s' ∧ Reaped h st es := by
  have hr : Ward.stubborn.Reliable fun _ _ ↦ True := Ward.host_reliable _ _ _
  have hx : Ward.stubborn.CommandsEnd := Ward.host_commandsEnd fun w ↦ nofun
  refine ⟨hr, hx, ?_, ?_⟩
  · obtain ⟨es, v, h', st, s', hrun, -, -, herr, -, hk, hended, hreap⟩ :=
      (teardown_verdict_and_reclaim hr hx).1 ServiceHandle.sample { mounted := true } rfl
        fun _ ↦ trivial
    obtain rfl := (herr _).mpr (.late rfl rfl rfl)
    exact ⟨es, h', st, s', hrun, hk _ rfl, hended, hreap⟩
  · obtain ⟨es, st, s', hrun, -, hreap⟩ :=
      (teardown_verdict_and_reclaim hr hx).2.2.1 Ward.launcher ⟨[]⟩ ⟨[], [], []⟩
        { mounted := false } _ _ _ _ _ rfl rfl
    exact ⟨es, _, _, st, s', hrun, hreap⟩

end MountSweep
