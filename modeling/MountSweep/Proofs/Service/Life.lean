import Mathlib.Algebra.GroupWithZero.Nat
import Mathlib.Data.List.Chain
import Mathlib.Logic.Relation
import MountSweep.Proofs.Service.Machine
import MountSweep.Proofs.Service.Recording

namespace MountSweep

open Posix Time

variable {σ : Type}

inductive ServiceState.Moves : ServiceState → ServiceState → Prop
  | ready : Moves .starting .active
  | unready : Moves .starting .killed
  | stopped : Moves .active .stopped
  | killed : Moves .active .killed

inductive Teardown
  | stop | cleanup

/-- A stretch of the life of a service: what was requested of the machine, the result, if the
stretch came to its end, and the state of the service afterwards. -/
structure Turn where
  events : List Event
  verdict : Option (Except Error Unit)
  state : ServiceState

def Turn.idle (state : ServiceState) : Turn := ⟨[], some (.ok ()), state⟩

def unmounts (turns : List Turn) : ℕ := (turns.map fun t ↦ executions t.events).sum

@[simp] theorem unmounts_nil : unmounts [] = 0 := rfl

@[simp] theorem unmounts_cons (t : Turn) (turns : List Turn) :
    unmounts (t :: turns) = executions t.events + unmounts turns := by
  simp [unmounts]

@[simp] theorem unmounts_replicate_idle (n : ℕ) (state : ServiceState) :
    unmounts (List.replicate n (.idle state)) = 0 := by
  simp [unmounts, Turn.idle]

namespace ServiceHandle

/-- Does what the owner asks for; a forced teardown has no verdict of its own. -/
def tearDown (host : ServiceHost σ) (h : ServiceHandle) :
    Teardown → Act σ (Except TeardownError Unit × ServiceHandle)
  | .stop => h.stop host
  | .cleanup => do return (.ok (), ← h.cleanup host)

/-- The turns of a service whose owner asks for some teardowns, each in its state of the machine,
and then drops the handle in yet another. -/
def live (host : ServiceHost σ) (dropped : σ) : ServiceHandle → List (σ × Teardown) → List Turn
  | h, [] =>
    match (h.abandon host.recorded).run (dropped, []) with
    | (.ok (), _, es) => [⟨es, some (.ok ()), h.state⟩]
    | (.error _, _, es) => [⟨es, none, h.state⟩]
  | h, (s, c) :: calls =>
    match (h.tearDown host.recorded c).run (s, []) with
    | (.ok (v, h'), _, es) =>
      ⟨es, some (v.mapError .teardown), h'.state⟩ :: live host dropped h' calls
    | (.error _, _, es) => [⟨es, none, h.state⟩]

/-- The turns of a service that has been launched: the wait for its mount, and the calls on its
handle, which nobody gets if the mount does not come up. -/
def lifetime (host : ServiceHost σ) (dropped : σ) (h : ServiceHandle) (s : σ)
    (calls : List (σ × Teardown)) : List Turn :=
  match (h.settle host.recorded).run (s, []) with
  | (.ok (.ok (), h'), _, es) => ⟨es, some (.ok ()), h'.state⟩ :: h'.live host dropped calls
  | (.ok (.error e, h'), _, es) =>
    ⟨es, some (.error (.setup e)), h'.state⟩ :: h'.live host dropped []
  | (.error _, _, es) => [⟨es, none, h.state⟩]

variable (host : ServiceHost σ) (h : ServiceHandle) (s : σ) (dropped : σ)

theorem tearDown_stop : h.tearDown host .stop = h.stop host := rfl

theorem tearDown_cleanup : h.tearDown host .cleanup = (do return (.ok (), ← h.cleanup host)) := rfl

theorem tearDown_terminal (ht : h.state.isTerminal = true) (c : Teardown) :
    Runs (h.tearDown host.recorded c) s [] (.ok (.ok (), h)) s := by
  cases c with
  | stop =>
    rw [tearDown_stop]
    exact stop_terminal host h s ht
  | cleanup =>
    rw [tearDown_cleanup]
    exact (cleanup_terminal host h s ht).bind_last (.pure _ s)

theorem live_terminal (ht : h.state.isTerminal = true) (calls : List (σ × Teardown)) :
    h.live host dropped calls = List.replicate (calls.length + 1) (.idle h.state) := by
  induction calls with
  | nil =>
    rw [live, abandon_terminal host h dropped ht []]
    rfl
  | cons call calls ih =>
    obtain ⟨s, c⟩ := call
    rw [live, tearDown_terminal host h s ht c []]
    exact congrArg (Turn.idle h.state :: ·) ih

variable {host h s}

theorem executions_unmountRequest (hc : h.unmountCommand ≠ []) (k : Sink) (x : Execution) :
    executions (h.unmountRequest k x) = 1 := by
  unfold unmountRequest
  cases hu : h.unmountCommand with
  | nil => exact absurd hu hc
  | cons program args => simp [Event.isExecution]

theorem executions_asks (e : Event) :
    executions (h.asks e) = if h.ended = none then executions [e] else 0 := by
  unfold asks
  split <;> rfl

theorem signals_asks (e : Event) :
    signals (h.asks e) = if h.ended = none then signals [e] else [] := by
  unfold asks
  split <;> rfl

end ServiceHandle

theorem Reclaims.executions {host : ServiceHost σ} {h : ServiceHandle} {s s' : σ} {es : List Event}
    {r : Except Stuck ServiceHandle} (hr : Reclaims host h s es r s') : executions es = 0 := by
  cases hr with
  | gone hp => simp [ServiceHandle.executions_asks, Event.isExecution]
  | obeyed | killed | hangs => simp [Event.isExecution]

theorem Reclaims.learns {host : ServiceHost σ} {h h' : ServiceHandle} {s s' : σ} {es : List Event}
    (hr : Reclaims host h s es (.ok h') s') : ∃ o, h' = h.learn o := by
  cases hr <;> exact ⟨_, rfl⟩

theorem Reclaims.state {host : ServiceHost σ} {h h' : ServiceHandle} {s s' : σ} {es : List Event}
    (hr : Reclaims host h s es (.ok h') s') : h'.state = h.state := by
  obtain ⟨o, rfl⟩ := hr.learns
  exact h.learn_state o

theorem Unmounts.executions {host : ServiceHost σ} {h : ServiceHandle} {s s' : σ} {es : List Event}
    {r : Except Stuck (Except TeardownError Unit × ServiceHandle)} (hc : h.unmountCommand ≠ [])
    (hu : Unmounts host h s es r s') : executions es = 1 := by
  cases hu <;>
    simp [ServiceHandle.executions_unmountRequest hc, ServiceHandle.executions_asks,
      Event.isExecution]

theorem Unmounts.learns {host : ServiceHost σ} {h h' : ServiceHandle} {s s' : σ} {es : List Event}
    {v : Except TeardownError Unit} (hu : Unmounts host h s es (.ok (v, h')) s') :
    ∃ o, h' = h.learn o := by
  cases hu with
  | failed => exact ⟨none, rfl⟩
  | mounted => exact ⟨none, rfl⟩
  | waited => exact ⟨_, rfl⟩

theorem Readies.requests {host : ServiceHost σ} {h : ServiceHandle} {deadline n : ℕ} {s s' : σ}
    {es : List Event} {r : Except Stuck (Except SetupError Unit × ServiceHandle)}
    (hr : Readies host h deadline n s es r s') : executions es = 0 ∧ signals es = [] := by
  induction hr with
  | exhausted s => exact ⟨rfl, rfl⟩
  | mounted => exact ⟨rfl, rfl⟩
  | unreadable | ended | late =>
    simp [ServiceHandle.executions_asks, ServiceHandle.signals_asks, Event.isExecution,
      Event.signal?]
  | again hm hp hd hw ih =>
    simp [ServiceHandle.executions_asks, ServiceHandle.signals_asks, Event.isExecution,
      Event.signal?, ih]

theorem Readies.learns {host : ServiceHost σ} {h h' : ServiceHandle} {deadline n : ℕ} {s s' : σ}
    {es : List Event} {r : Except Stuck (Except SetupError Unit × ServiceHandle)}
    (hr : Readies host h deadline n s es r s') {v : Except SetupError Unit}
    (hv : r = .ok (v, h')) : ∃ o, h' = h.learn o := by
  induction hr with
  | exhausted s => cases hv
  | mounted | unreadable | late =>
    cases hv
    exact ⟨none, rfl⟩
  | ended =>
    cases hv
    exact ⟨_, rfl⟩
  | again hm hp hd hw ih => exact ih hv

namespace ServiceHandle

variable (host : ServiceHost σ) {h : ServiceHandle}

theorem cleanup_once (hc : h.unmountCommand ≠ []) (ht : h.state.isTerminal = false) (s : σ) :
    ∃ es r s', Runs (h.cleanup host.recorded) s es r s' ∧ executions es = 1 ∧
      ∀ h', r = .ok h' → h'.state = .killed := by
  rcases hx : host.unmount h .discarded s with ⟨x, s₁⟩
  by_cases hn : x = .never
  · subst hn
    exact ⟨_, _, s₁, cleanup_hangs host h s ht hx, executions_unmountRequest hc _ _, nofun⟩
  · obtain ⟨es, r, s', hr, hrun⟩ := reclaim_runs host { h with state := .killed } s₁
    refine ⟨_, r, s', cleanup_runs host h s ht hx hn hrun, ?_, ?_⟩
    · rw [executions_append, executions_unmountRequest hc, hr.executions]
    · rintro h' rfl
      exact hr.state

/-- A clean teardown runs the unmount command once if it succeeds, and at most twice anyway. -/
theorem stop_atMostTwice (hc : h.unmountCommand ≠ []) (ht : h.state.isTerminal = false) (s : σ) :
    ∃ es r s', Runs (h.stop host.recorded) s es r s' ∧ executions es ≤ 2 ∧
      (∀ h', r = .ok (.ok (), h') → h'.state = .stopped ∧ executions es = 1) ∧
      ∀ e h', r = .ok (.error e, h') → h'.state = .killed := by
  obtain ⟨us, r, s₁, hu, hrun⟩ := unmount_runs host h s
  have hone := hu.executions hc
  rcases r with why | ⟨e | u, h₁⟩
  · exact ⟨us, _, s₁, stop_hangs host h s ht hrun, by omega, fun _ hr ↦ (by cases hr),
      fun _ _ hr ↦ (by cases hr)⟩
  · obtain ⟨o, rfl⟩ := hu.learns
    obtain ⟨es, r, s', hclean, htwo, hstate⟩ := cleanup_once host
      ((h.learn_unmountCommand o).trans_ne hc)
      (by rwa [learn_state]) s₁
    refine ⟨us ++ es, _, s', stop_forced host h s ht hrun hclean, ?_, fun h' hr ↦ ?_,
      fun e' h' hr ↦ ?_⟩
    · rw [executions_append]
      omega
    · rcases r with why | h₂ <;> cases hr
    · rcases r with why | h₂ <;> cases hr
      exact hstate _ rfl
  · refine ⟨us, _, s₁, stop_clean host h s ht hrun, by omega, fun h' hr ↦ ?_,
      fun _ _ hr ↦ (by cases hr)⟩
    cases hr
    exact ⟨rfl, hone⟩

theorem tearDown_first (hc : h.unmountCommand ≠ []) (ht : h.state = .active) (s : σ)
    (c : Teardown) :
    ∃ es r s', Runs (h.tearDown host.recorded c) s es r s' ∧ executions es ≤ 2 ∧
      (c = .cleanup → executions es = 1) ∧ (∀ h', r = .ok (.ok (), h') → executions es = 1) ∧
      ∀ v h', r = .ok (v, h') →
        h'.state.isTerminal = true ∧ ServiceState.Moves .active h'.state := by
  have hn : h.state.isTerminal = false := by simp [ht, ServiceState.isTerminal]
  cases c with
  | cleanup =>
    rw [tearDown_cleanup]
    obtain ⟨es, r, s', hrun, hone, hstate⟩ := cleanup_once host hc hn s
    cases r with
    | error why =>
      exact ⟨es, _, s', hrun.bind_stuck, by omega, fun _ ↦ hone, fun _ _ ↦ hone,
        fun _ _ hr ↦ (by cases hr)⟩
    | ok h₁ =>
      refine ⟨es, _, s', hrun.bind_last (.pure _ s'), by omega, fun _ ↦ hone, fun _ _ ↦ hone,
        fun v h' hr ↦ ?_⟩
      cases hr
      rw [hstate _ rfl]
      exact ⟨rfl, .killed⟩
  | stop =>
    rw [tearDown_stop]
    obtain ⟨es, r, s', hrun, htwo, hok, herr⟩ := stop_atMostTwice host hc hn s
    refine ⟨es, r, s', hrun, htwo, nofun, fun h' hr ↦ (hok h' hr).2, fun v h' hr ↦ ?_⟩
    rcases v with e | u
    · rw [herr e h' hr]
      exact ⟨rfl, .killed⟩
    · rw [(hok h' hr).1]
      exact ⟨rfl, .stopped⟩

theorem abandon_once (hc : h.unmountCommand ≠ []) (ht : h.state.isTerminal = false) (s : σ) :
    ∃ es r s', Runs (h.abandon host.recorded) s es r s' ∧ executions es = 1 := by
  rcases hx : host.unmount h .discarded (if h.ended = none then host.signal h.pid .kill s else s)
    with ⟨x, s'⟩
  refine ⟨_, _, s', abandon_runs host h s ht rfl hx hc, ?_⟩
  simp [executions_asks, executions_unmountRequest hc, Event.isExecution]

/-- The wait for the mount of a service that has been launched requests nothing of the process but
its status; a service without its mount is torn down, and one that nobody looks after any more has
been dropped. -/
theorem settle_once (hc : h.unmountCommand ≠ []) (ht : h.state = .starting) (s : σ) :
    ∃ es r s', Runs (h.settle host.recorded) s es r s' ∧ executions es ≤ 1 ∧
      (∀ h', r = .ok (.ok (), h') → h'.state = .active ∧ h'.unmountCommand = h.unmountCommand ∧
        executions es = 0 ∧ signals es = []) ∧
      ∀ e h', r = .ok (.error e, h') → h'.state = .killed ∧ executions es = 1 := by
  have hn : h.state.isTerminal = false := by simp [ht, ServiceState.isTerminal]
  cases hd : deadline? (host.now s) h.timeouts.mount with
  | none =>
    obtain ⟨es, r, s', ha, hone⟩ := abandon_once host hc hn s
    obtain ⟨why, -, hw⟩ := waitReady_overflow host h s hd ha
    exact ⟨es, _, s', settle_hangs host h s hw, by omega, fun _ hr ↦ (by cases hr),
      fun _ _ hr ↦ (by cases hr)⟩
  | some deadline =>
    obtain ⟨ws, r, s₁, hready, hw⟩ := waitReady_runs host h s hd
    obtain ⟨hzero, hsilent⟩ := hready.requests
    rcases r with why | ⟨e | u, h₁⟩
    · exact ⟨ws, _, s₁, settle_hangs host h s hw, by omega, fun _ hr ↦ (by cases hr),
        fun _ _ hr ↦ (by cases hr)⟩
    · obtain ⟨o, rfl⟩ := hready.learns rfl
      obtain ⟨es, r, s', hclean, hone, hstate⟩ := cleanup_once host
        ((h.learn_unmountCommand o).trans_ne hc) (by rwa [learn_state]) s₁
      have hcount : executions (ws ++ es) = 1 := by
        rw [executions_append]
        omega
      refine ⟨ws ++ es, _, s', settle_failed host h s hw hclean, by omega, fun h' hr ↦ ?_,
        fun e' h' hr ↦ ?_⟩
      · rcases r with why | h₂ <;> cases hr
      · rcases r with why | h₂ <;> cases hr
        exact ⟨hstate _ rfl, hcount⟩
    · obtain ⟨o, rfl⟩ := hready.learns rfl
      refine ⟨ws, _, s₁, settle_ready host h s hw, by omega, fun h' hr ↦ ?_,
        fun _ _ hr ↦ (by cases hr)⟩
      cases hr
      exact ⟨rfl, learn_unmountCommand h o, hzero, hsilent⟩

end ServiceHandle

theorem ServiceLauncher.start_handle {host : ServiceHost σ} {l : ServiceLauncher} {v : Variant}
    {dirs : ServiceDirs} {h : ServiceHandle} {s s' : σ}
    (hs : (l.start host v dirs).run s = (.ok (.ok h), s')) :
    h.src = dirs.src ∧ h.mnt = dirs.mnt ∧ h.unmountCommand = l.service.unmountCommand ∧
      h.timeouts = l.timeouts ∧ ∃ o, v.options = .ok o ∧ h.cacheTimeout = o.cacheTimeout := by
  obtain ⟨h₀, s₁, h₁, hl, hw, rfl⟩ := start_returns host l v dirs hs
  obtain ⟨_, hlaunched, -⟩ := launch_returns host l v dirs hl
  obtain ⟨_, _, hready, -⟩ := ServiceHandle.waitReady_returns host h₀ hw
  obtain ⟨o, rfl⟩ := hready.learns rfl
  cases hlaunched with
  | started ho _ _ => exact ⟨by simp, by simp, by simp, by simp, _, ho, by simp⟩

/-- The turns of a service that has become active, while its owner asks for some teardowns and then
drops the handle. -/
structure Concludes (calls : List (σ × Teardown)) (turns : List Turn) : Prop where
  moves : List.IsChain (Relation.ReflGen ServiceState.Moves) (.active :: turns.map Turn.state)
  atMostTwice : unmounts turns ≤ 2
  dropped : calls = [] → ∃ u, turns = [u] ∧ unmounts turns = 1
  /-- The first teardown that returns is the last thing that happens to the service. -/
  tornDown {s : σ} {c : Teardown} {rest : List (σ × Teardown)} : calls = (s, c) :: rest →
    ∃ u later, turns = u :: later ∧ (u.verdict = none → later = []) ∧
      (u.verdict ≠ none → u.state.isTerminal = true ∧
        later = List.replicate (rest.length + 1) (.idle u.state)) ∧
      (c = .cleanup → unmounts turns = 1) ∧ (u.verdict = some (.ok ()) → unmounts turns = 1) ∧
      (unmounts turns = 2 → c = .stop ∧ u.verdict ≠ some (.ok ()))

/-- The turns of a service that has been launched: the wait for its mount and what follows. -/
structure Lifetime (calls : List (σ × Teardown)) (t : Turn) (turns : List Turn) : Prop where
  moves : List.IsChain (Relation.ReflGen ServiceState.Moves)
    (.starting :: (t :: turns).map Turn.state)
  atMostTwice : unmounts (t :: turns) ≤ 2
  stuck : t.verdict = none → turns = [] ∧ unmounts [t] ≤ 1
  unready {e : Error} : t.verdict = some (.error e) →
    t.state = .killed ∧ unmounts [t] = 1 ∧ turns = [.idle .killed]
  ready : t.verdict = some (.ok ()) →
    t.state = .active ∧ unmounts [t] = 0 ∧ signals t.events = [] ∧ Concludes calls turns

namespace ServiceHandle

variable (host : ServiceHost σ) {h : ServiceHandle} (dropped : σ)

theorem mapError_ok {v : Except TeardownError Unit}
    (hv : some (v.mapError Error.teardown) = some (.ok ())) : v = .ok () := by
  cases v with
  | error e => cases hv
  | ok u => rfl

theorem live_concludes (hc : h.unmountCommand ≠ []) (ht : h.state = .active)
    (calls : List (σ × Teardown)) : Concludes calls (h.live host dropped calls) := by
  cases calls with
  | nil =>
    obtain ⟨es, r, s', hrun, hone⟩ :=
      abandon_once host hc (by simp [ht, ServiceState.isTerminal]) dropped
    have hlive : ∃ v, h.live host dropped [] = [⟨es, v, .active⟩] := by
      rw [live, hrun [], ht]
      cases r with
      | error why => exact ⟨_, rfl⟩
      | ok u => exact ⟨_, rfl⟩
    obtain ⟨v, hv⟩ := hlive
    rw [hv]
    exact ⟨by simp [Relation.ReflGen.refl], by simp [hone], fun _ ↦ ⟨_, rfl, by simp [hone]⟩, nofun⟩
  | cons call rest =>
    obtain ⟨s, c⟩ := call
    obtain ⟨es, r, s', hrun, htwo, hclean, hok, hend⟩ := tearDown_first host hc ht s c
    rcases r with why | ⟨v, h'⟩
    · have hlive : h.live host dropped ((s, c) :: rest) = [⟨es, none, .active⟩] := by
        rw [live, hrun [], ht]
        rfl
      rw [hlive]
      refine ⟨by simp [Relation.ReflGen.refl], by simpa using htwo, nofun, fun he ↦ ?_⟩
      cases he
      refine ⟨_, [], rfl, fun _ ↦ rfl, fun hn ↦ absurd rfl hn, fun hc' ↦ by simp [hclean hc'],
        nofun, fun h2 ↦ ⟨?_, nofun⟩⟩
      cases c with
      | stop => rfl
      | cleanup => simp [hclean rfl] at h2
    · obtain ⟨hterm, hmove⟩ := hend v h' rfl
      have hlive : h.live host dropped ((s, c) :: rest) =
          ⟨es, some (v.mapError .teardown), h'.state⟩ ::
            List.replicate (rest.length + 1) (.idle h'.state) := by
        rw [live, hrun []]
        exact congrArg (_ :: ·) (live_terminal host h' dropped hterm rest)
      have htotal : unmounts (h.live host dropped ((s, c) :: rest)) = executions es := by
        rw [hlive, unmounts_cons, unmounts_replicate_idle, Nat.add_zero]
      refine ⟨?_, htotal ▸ htwo, nofun, fun he ↦ ?_⟩
      · rw [hlive, List.map_cons, List.map_replicate, List.isChain_cons_cons]
        exact ⟨.single hmove, List.isChain_replicate_of_rel (rest.length + 2) .refl⟩
      · cases he
        have hone : v = .ok () → executions es = 1 := fun hv ↦ hok h' (by rw [hv])
        rw [htotal]
        refine ⟨_, _, hlive, nofun, fun _ ↦ ⟨hterm, rfl⟩, hclean, fun hv ↦ ?_,
          fun h2 ↦ ⟨?_, fun hv ↦ ?_⟩⟩
        · exact hone (mapError_ok hv)
        · cases c with
          | stop => rfl
          | cleanup => simp [hclean rfl] at h2
        · simp [hone (mapError_ok hv)] at h2

end ServiceHandle

/-- From its launch to the drop of its handle a service goes through its states in order; its first
teardown is its last, and the unmount command is run once, or twice if a clean teardown failed. -/
theorem life_cycle {host : ServiceHost σ} {l : ServiceLauncher} {v : Variant} {dirs : ServiceDirs}
    {s s₁ : σ} {h : ServiceHandle} (hc : l.service.unmountCommand ≠ [])
    (hl : (l.launch host v dirs).run s = (.ok (.ok h), s₁)) :
    (l.start host v dirs).run s =
        (((h.settle host).run s₁).1.map ServiceLauncher.settled, ((h.settle host).run s₁).2) ∧
      h.state = .starting ∧
      (∃ es, Runs (l.launch host.recorded v dirs) s es (.ok (.ok h)) s₁ ∧ executions es = 0 ∧
        signals es = []) ∧
      ∀ dropped calls, ∃ t turns, h.lifetime host dropped s₁ calls = t :: turns ∧
        Lifetime calls t turns := by
  obtain ⟨ls, hcase, hlrun⟩ := ServiceLauncher.launch_returns host l v dirs hl
  obtain ⟨hstate, hcommand, hls⟩ : h.state = .starting ∧ h.unmountCommand ≠ [] ∧
      executions ls = 0 ∧ signals ls = [] := by
    cases hcase
    exact ⟨rfl, hc, rfl, rfl⟩
  obtain ⟨es, r, s₂, hrun, hone, hready, hunready⟩ :=
    ServiceHandle.settle_once host hcommand hstate s₁
  refine ⟨?_, hstate, ⟨ls, hlrun, hls⟩, fun dropped calls ↦ ?_⟩
  · rw [(ServiceHandle.settle_mirrors host h).run_eq hrun]
    exact (ServiceLauncher.start_mirrors host l v dirs).run_eq
      (ServiceLauncher.start_settled host s l v dirs hlrun hrun)
  rcases r with why | ⟨e | u, h'⟩
  · refine ⟨⟨es, none, h.state⟩, [], ?_, ?_⟩
    · rw [ServiceHandle.lifetime, hrun []]
      rfl
    · exact ⟨by simp [hstate, Relation.ReflGen.refl], by simp; omega, fun _ ↦ ⟨rfl, by simpa⟩,
        nofun, nofun⟩
  · obtain ⟨hkilled, hone'⟩ := hunready e h' rfl
    refine ⟨⟨es, some (.error (.setup e)), h'.state⟩, [.idle .killed], ?_, ?_⟩
    · rw [ServiceHandle.lifetime, hrun []]
      refine congrArg (_ :: ·) ?_
      rw [ServiceHandle.live_terminal host h' dropped (by rw [hkilled]; rfl), hkilled]
      rfl
    · rw [hkilled]
      refine ⟨?_, by simp [hone', Turn.idle], nofun, fun _ ↦ ⟨rfl, by simpa, rfl⟩, nofun⟩
      simp [Turn.idle, Relation.ReflGen.refl, Relation.ReflGen.single, ServiceState.Moves.unready]
  · obtain ⟨hactive, hcommand', hzero, hsilent⟩ := hready h' rfl
    have hcon :=
      ServiceHandle.live_concludes host dropped (hcommand'.trans_ne hcommand) hactive calls
    refine ⟨⟨es, some (.ok ()), h'.state⟩, h'.live host dropped calls, ?_, ?_⟩
    · rw [ServiceHandle.lifetime, hrun []]
      rfl
    · rw [hactive]
      refine ⟨?_, ?_, nofun, nofun, fun _ ↦ ⟨rfl, by simpa, hsilent, hcon⟩⟩
      · rw [List.map_cons, List.isChain_cons_cons]
        exact ⟨.single .ready, hcon.moves⟩
      · rw [unmounts_cons, hzero, Nat.zero_add]
        exact hcon.atMostTwice

/-- Of three teardowns of a process that obeys, only the first does anything. -/
theorem obedient_process_life :
    Ward.launcher.service.unmountCommand ≠ [] ∧
      ∃ h s₁, (Ward.launcher.launch Ward.obedient ⟨[]⟩ ⟨[], [], []⟩).run { mounted := false } =
          (.ok (.ok h), s₁) ∧
        ∃ t turns, h.lifetime Ward.obedient s₁ s₁ [(s₁, .stop), (s₁, .cleanup), (s₁, .stop)] =
          t :: turns ∧ Lifetime [(s₁, .stop), (s₁, .cleanup), (s₁, .stop)] t turns := by
  have hc : Ward.launcher.service.unmountCommand ≠ [] := nofun
  obtain ⟨h, s₁, hl⟩ : ∃ h s₁, (Ward.launcher.launch Ward.obedient ⟨[]⟩ ⟨[], [], []⟩).run
      { mounted := false } = (.ok (.ok h), s₁) := ⟨_, _, rfl⟩
  exact ⟨hc, h, s₁, hl, (life_cycle hc hl).2.2.2 s₁ _⟩

end MountSweep
