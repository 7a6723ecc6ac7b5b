import MountSweep.Proofs.Scenarios.Steps
import MountSweep.Proofs.Sweep.Caching

namespace MountSweep

open Posix Time Output Scenario Act

variable {σ : Type}

namespace Sweep

variable {host : SweepHost σ} {w : Sweep}

/-- The clock never comes as near to its end as the spans that are added to it are long. -/
def Roomy (host : SweepHost σ) (t : TimeoutConfig) : Prop :=
  ∀ s, host.now s + max t.mount.nanos t.outputDrain.nanos < clockEnd

theorem conclude_eq_overflow_iff {d : Span} {rules : Surveillance} {s s' : σ} :
    (conclude host d rules).run s = (.error .overflow, s') ↔
      s' = s ∧ clockEnd ≤ host.now s + d.nanos := by
  have hmirrors := conclude_mirrors host d rules
  rcases Nat.lt_or_ge (host.now s + d.nanos) clockEnd with hfits | hend
  · rcases hd : host.drain d s with ⟨c, s₁⟩
    simp [hmirrors.run_eq (conclude_runs host rules hfits hd), hfits]
  · simp [hmirrors.run_eq (conclude_overflows host rules hend), hend, eq_comm]

variable (sc : Scenario) (v : Variant)

theorem executeIn_fits (hr : Roomy host w.launcher.timeouts) (dirs : ServiceDirs) :
    (w.executeIn host sc v dirs).Fits := by
  intro s s' h
  obtain ⟨es, ho⟩ := executeIn_eq_overflow_iff.mp h
  cases ho with
  | @unready h ls as s₁ s₂ hl hend ha =>
    have := hr s₁
    omega
  | uncaptured hc hend =>
    have := hr s'
    omega

theorem execute_fits (hr : Roomy host w.launcher.timeouts) : (w.execute host sc v).Fits := by
  refine (fits_ask _).bind fun made ↦ ?_
  cases made with
  | error e => exact fits_pure _
  | ok root =>
    refine Fits.lastly ((fits_ask _).bind fun created ↦ ?_)
    cases created with
    | error e => exact fits_pure _
    | ok dirs => exact executeIn_fits sc v hr dirs

theorem runOne_fits (hr : Roomy host w.launcher.timeouts) : (w.runOne host sc v).Fits := by
  refine fits_get.bind fun s ↦ fits_get.bind fun s₁ ↦ ?_
  dsimp only
  split
  · exact (fits_pure _).bind fun _ ↦ fits_get.bind fun _ ↦ fits_pure _
  · refine Fits.bind ((execute_fits sc v hr).bind fun _ ↦ fits_pure _) fun _ ↦ ?_
    exact fits_get.bind fun _ ↦ fits_pure _

theorem runPlan_fits (hr : Roomy host w.launcher.timeouts) (plan : List (Scenario × Variant)) :
    (w.runPlan host plan).Fits := by
  induction plan with
  | nil => exact fits_pure _
  | cons p plan ih =>
    refine fits_get.bind fun s ↦ ?_
    split
    · exact fits_pure _
    · exact (runOne_fits p.1 p.2 hr).bind fun run ↦ (fits_tell _).bind fun _ ↦
        ih.bind fun _ ↦ fits_pure _

end Sweep

namespace Scenario.Check

variable {ctx : Context} {margin : ℕ} {ws : Workspace}

theorem waitForCache_run (ctx : Context) (margin : ℕ) (ws : Workspace) :
    (waitForCache ctx margin).run ws =
      if ctx.cacheTimeout = 0 then (.ok (), ws)
      else if UInt64.size ≤ ctx.cacheTimeout.toNat + margin then
        (.error (.panicked "attempt to add with overflow"), ws)
      else if (clockEnd : ℤ) ≤
          ws.files.now + (Span.ofSecs (ctx.cacheTimeout.toNat + margin)).nanos then
        (.error (.panicked "overflow when adding duration to instant"), ws)
      else (.ok (), { ws with files := { ws.files with now :=
        ws.files.now + (Span.ofSecs (ctx.cacheTimeout.toNat + margin)).nanos } }) := by
  have hend : (clockEnd : ℤ) = (maxSeconds : ℤ) * Span.nanosPerSec := by decide
  rw [hend, waitForCache]
  by_cases hoff : ctx.cacheTimeout = 0
  · rw [if_pos hoff, if_pos hoff]
    rfl
  by_cases hsum : UInt64.size ≤ ctx.cacheTimeout.toNat + margin
  · rw [if_neg hoff, if_neg hoff, if_pos hsum, if_pos hsum]
    rfl
  rw [if_neg hoff, if_neg hoff, if_neg hsum, if_neg hsum, run_get_bind]
  dsimp only
  split_ifs <;> rfl

theorem waitForCache_eq_sum_iff :
    (waitForCache ctx margin).run ws = (.error (.panicked "attempt to add with overflow"), ws) ↔
      ctx.cacheTimeout ≠ 0 ∧ UInt64.size ≤ ctx.cacheTimeout.toNat + margin := by
  rw [waitForCache_run]
  split_ifs <;> simp_all

theorem waitForCache_eq_end_iff :
    (waitForCache ctx margin).run ws =
        (.error (.panicked "overflow when adding duration to instant"), ws) ↔
      ctx.cacheTimeout ≠ 0 ∧ ctx.cacheTimeout.toNat + margin < UInt64.size ∧
        (clockEnd : ℤ) ≤ ws.files.now +
          (Span.ofSecs (ctx.cacheTimeout.toNat + margin)).nanos := by
  rw [waitForCache_run]
  split_ifs <;> simp_all

theorem waitForCache_fails_iff (hnow : (0 : ℤ) ≤ ws.files.now) :
    (∃ f ws', (waitForCache ctx margin).run ws = (.error f, ws')) ↔
      ctx.cacheTimeout ≠ 0 ∧ (clockEnd : ℤ) ≤ ws.files.now +
        (Span.ofSecs (ctx.cacheTimeout.toNat + margin)).nanos := by
  rw [waitForCache_run]
  split_ifs with hoff hsum hend
  · simp [hoff]
  · -- so many seconds are too many by themselves
    have hmore : clockEnd ≤ (Span.ofSecs (ctx.cacheTimeout.toNat + margin)).nanos :=
      Nat.mul_le_mul_right _ ((by decide : 0x8000000000000000 ≤ UInt64.size).trans hsum)
    exact iff_of_true ⟨_, _, rfl⟩ ⟨hoff, by omega⟩
  · simp [hoff, hend]
  · simp [hoff, hend]

end Scenario.Check

namespace Config

variable {c : Config}

theorem validate_timeouts_iff (hc : c.validate = .ok ()) (t : TimeoutConfig) :
    ({ c with timeouts := t } : Config).validate = .ok () ↔
      0 < t.pollInterval.nanos ∧ t.pollInterval ≤ t.mount := by
  have hu := validate_eq_ok_iff.mp hc
  rw [validate_eq_ok_iff]
  exact ⟨fun h ↦ ⟨h.pollInterval_pos, h.pollInterval_le⟩,
    fun ⟨hpos, hle⟩ ↦ ⟨⟨hu.axes, hu.patterns⟩, hu.unmountCommand, hu.host, hpos, hle⟩⟩

/-- The configuration with services that keep directories in their cache for `n` seconds. -/
def caching (c : Config) (n : UInt64) : Config :=
  { c with matrix := Matrix.pinAxes Axis.cacheTimeout (.int n) c.matrix }

theorem caching_pinned (hc : c.validate = .ok ()) (n : UInt64) :
    Matrix.Pinned Axis.cacheTimeout (.int n) c.matrix (c.caching n).matrix :=
  Matrix.pinAxes_pinned (validate_eq_ok_iff.mp hc).axes.nodup

theorem validate_caching (hc : c.validate = .ok ()) (n : UInt64) :
    (c.caching n).validate = .ok () := by
  have hu := validate_eq_ok_iff.mp hc
  have hp := caching_pinned hc n
  refine validate_eq_ok_iff.mpr ⟨⟨⟨hp.wellFormed hu.axes.toWellFormed, fun a ha ↦ ?_⟩,
    hu.patterns⟩, hu.unmountCommand, hu.host, hu.pollInterval_pos, hu.pollInterval_le⟩
  rcases hp.of_mem ha with rfl | ⟨ha, -⟩
  · exact .seconds fun v hv ↦ ⟨n, List.mem_singleton.mp hv⟩
  · exact hu.axes.known a ha

end Config

theorem Matrix.Pinned.mem_of_ne {name : String} {value : AxisValue} {axes axes' : List Axis}
    (h : Pinned name value axes axes') {a : Axis} (ha : a ∈ axes) (hne : a.name ≠ name) :
    a ∈ axes' := by
  cases h with
  | @inPlace before after b hb hother =>
    simp only [List.mem_append, List.mem_cons] at ha ⊢
    rcases ha with ha | rfl | ha
    · exact .inl ha
    · exact absurd hb hne
    · exact .inr (.inr ha)
  | atEnd hother => exact List.mem_append_left _ ha

namespace Sweep

variable {c : Config} {w : Sweep} {v : Variant}

/-- The axis of the cache stays when that of the mapping mode is pinned, so that its value is that
of each planned variant. -/
theorem cacheTimeout_of_mem_plan (hc : c.validate = .ok ()) {n : UInt64}
    (hw : ofConfig? (c.caching n) = .ok w) {scenarios : List Scenario} {sc : Scenario}
    (hv : (sc, v) ∈ w.plan scenarios) : ∃ o, v.options = .ok o ∧ o.cacheTimeout = n := by
  obtain ⟨husable, hmatrix⟩ := Config.matrix?_eq_ok_iff.mp (ofConfig?_eq_ok hw).1
  have hpinned : Matrix.Pinned Axis.nameMap (.str sc.nameMap.name) (c.caching n).matrix
      (w.matrixOf sc).axes := by
    rw [matrixOf, hmatrix]
    exact Matrix.pinAxes_pinned husable.nodup
  have haxis : ⟨Axis.cacheTimeout, [.int n]⟩ ∈ (w.matrixOf sc).axes :=
    hpinned.mem_of_ne (Config.caching_pinned hc n).mem
      (show Axis.cacheTimeout ≠ Axis.nameMap by decide)
  obtain ⟨xs, hxs, hd, -⟩ := settings_of_mem_plan hw hv
  obtain ⟨⟨axis, value⟩, he, hname, hvalue⟩ :=
    exists_of_forall₂_left (chooses_of_mem_plan hv) haxis
  cases hname
  cases List.mem_singleton.mp hvalue
  rw [v.settings_eq_ok_iff.mp hxs] at he
  obtain ⟨x, hx, hentry⟩ := List.mem_map.mp he
  obtain rfl : x = .cacheTimeout n := Setting.entry_injective hentry
  have hset := (ServiceOptions.Holds.foldl hd).made _ hx
  exact ⟨_, Variant.options_of_settings hxs, by simpa [ServiceOptions.settings, eq_comm] using hset⟩

/-- When the deadlines in a sweep `w` of a configuration `c` lie beyond the end of the clock. -/
structure Deadlines (c : Config) (w : Sweep) : Prop where
  mount {σ : Type} {host : ServiceHost σ} {v : Variant} {dirs : ServiceDirs} {s s' : σ} :
    (w.launcher.start host v dirs).run s = (.error .overflow, s') ↔
      ∃ h s₁, (w.launcher.launch host v dirs).run s = (.ok (.ok h), s₁) ∧
        clockEnd ≤ host.now s₁ + c.timeouts.mount.nanos ∧ (h.abandon host).run s₁ = (.ok (), s')
  unready (hend : clockEnd ≤ c.timeouts.mount.nanos) {σ : Type} {host : ServiceHost σ}
    {v : Variant} {dirs : ServiceDirs} {s s' : σ} {h : ServiceHandle} :
    (w.launcher.start host v dirs).run s ≠ (.ok (.ok h), s')
  drain {σ : Type} {host : SweepHost σ} {rules : Surveillance} {s s' : σ} :
    (conclude host w.launcher.timeouts.outputDrain rules).run s = (.error .overflow, s') ↔
      s' = s ∧ clockEnd ≤ host.now s + c.timeouts.outputDrain.nanos
  roomy {σ : Type} {host : SweepHost σ} (hroomy : Roomy host c.timeouts)
    (scenarios : List Scenario) {s s' : σ} :
    (w.runAll host scenarios).run s ≠ (.error .overflow, s')
  /-- The seconds of a wait and its margin are added before the clock is looked at. -/
  cacheSum {ctx : Context} {margin : ℕ} {ws : Workspace} :
    (Check.waitForCache ctx margin).run ws =
        (.error (.panicked "attempt to add with overflow"), ws) ↔
      ctx.cacheTimeout ≠ 0 ∧ UInt64.size ≤ ctx.cacheTimeout.toNat + margin
  cacheEnd {ctx : Context} {margin : ℕ} {ws : Workspace} :
    (Check.waitForCache ctx margin).run ws =
        (.error (.panicked "overflow when adding duration to instant"), ws) ↔
      ctx.cacheTimeout ≠ 0 ∧ ctx.cacheTimeout.toNat + margin < UInt64.size ∧
        (clockEnd : ℤ) ≤ ws.files.now + (Span.ofSecs (ctx.cacheTimeout.toNat + margin)).nanos
  cacheFails {ctx : Context} {margin : ℕ} {ws : Workspace} (hnow : (0 : ℤ) ≤ ws.files.now) :
    (∃ f ws', (Check.waitForCache ctx margin).run ws = (.error f, ws')) ↔
      ctx.cacheTimeout ≠ 0 ∧
        (clockEnd : ℤ) ≤ ws.files.now + (Span.ofSecs (ctx.cacheTimeout.toNat + margin)).nanos

/-- The checks on a configuration keep none of its deadlines within the clock: from one that is
accepted, others are made by any time for a mount that is no shorter than the poll interval, any
time for the end of the output, and any number of seconds for a cache, which is what scenarios go
by. -/
theorem deadlines_unguarded (hc : c.validate = .ok ()) :
    (∃ w, ofConfig? c = .ok w ∧ Deadlines c w) ∧
    (∀ t : TimeoutConfig, ({ c with timeouts := t } : Config).validate = .ok () ↔
      0 < t.pollInterval.nanos ∧ t.pollInterval ≤ t.mount) ∧
    ∀ n, (c.caching n).validate = .ok () ∧ ∃ w, ofConfig? (c.caching n) = .ok w ∧
      ∀ scenarios sc v, (sc, v) ∈ w.plan scenarios →
        ∀ (σ : Type) (host : SweepHost σ) dirs s s' h,
          (w.launcher.start host.toServiceHost v dirs).run s = (.ok (.ok h), s') →
          (w.context host h).cacheTimeout = n := by
  refine ⟨?_, Config.validate_timeouts_iff hc, fun n ↦ ⟨Config.validate_caching hc n, ?_⟩⟩
  · obtain ⟨w, hw⟩ := exists_ofConfig?_eq_ok hc
    have hl : w.launcher = .ofConfig c := (ofConfig?_eq_ok hw).2.2
    have ht : w.launcher.timeouts = c.timeouts := by rw [hl]; rfl
    refine ⟨w, hw, ?_, ?_, ?_, ?_, Check.waitForCache_eq_sum_iff, Check.waitForCache_eq_end_iff,
      Check.waitForCache_fails_iff⟩
    · intros
      rw [ServiceLauncher.start_eq_overflow_iff, ht]
    · intro hend
      rw [← ht] at hend
      intros
      exact ServiceLauncher.start_ne_ok hend
    · intros
      rw [conclude_eq_overflow_iff, ht]
    · intro σ host hroomy scenarios s s'
      exact runPlan_fits (ht ▸ hroomy) _ s s'
  · obtain ⟨w, hw⟩ := exists_ofConfig?_eq_ok (Config.validate_caching hc n)
    refine ⟨w, hw, fun scenarios sc v hv σ host dirs s s' h hs ↦ ?_⟩
    obtain ⟨o, ho, hn⟩ := cacheTimeout_of_mem_plan hc hw hv
    exact (start_cacheTimeout ho hs).trans hn

end Sweep

/-- A configuration that has all the time in the world for mounts and for output. -/
def Config.patient : Config :=
  { matrix := [], falsePositives := []
    timeouts := { mount := .ofSecs 0x8000000000000000, outputDrain := .ofSecs 0x8000000000000000 } }

/-- A variant whose service keeps directories for as many seconds as the clock counts. -/
def Variant.hoarding : Variant :=
  ⟨[(Axis.debug, .bool false), (Axis.cacheTimeout, .int 0x8000000000000000),
    (Axis.nameMap, .str "none")]⟩

/-- A service that mounts at once is given up, and what it has printed is not judged. A scenario
that waits for a cache of too many seconds fails. -/
theorem patient_overflows :
    Config.patient.validate = .ok () ∧
    (∃ w, Sweep.ofConfig? Config.patient = .ok w ∧
      (∃ s', (w.launcher.start Ward.obedient ⟨[]⟩ ⟨[], [], []⟩).run { mounted := false } =
        (.error .overflow, s')) ∧
      ∀ rules, (Sweep.conclude (Ward.sweepHost Ward.obedient) w.launcher.timeouts.outputDrain
        rules).run { mounted := false } = (.error .overflow, { mounted := false })) ∧
    Config.unswept.validate = .ok () ∧
    (Config.unswept.caching 0x8000000000000000).validate = .ok () ∧
    ∃ w, Sweep.ofConfig? (Config.unswept.caching 0x8000000000000000) = .ok w ∧
      (Scenario.nothing, Variant.hoarding) ∈ w.plan [Scenario.nothing] ∧
      ∃ s' h, (w.launcher.start Ward.obedient Variant.hoarding ⟨[], [], []⟩).run
          { mounted := false } = (.ok (.ok h), s') ∧
        ∃ f ws', (Check.waitForCache (w.context (Ward.sweepHost Ward.obedient) h) 0).run
          { files := s'.files } = (.error f, ws') := by
  have hp : Config.patient.validate = .ok () := by decide
  have hu : Config.unswept.validate = .ok () := by decide
  obtain ⟨⟨w, hw, hdl⟩, -, -⟩ := Sweep.deadlines_unguarded hp
  obtain ⟨⟨_, -, hwait⟩, -, hcache⟩ := Sweep.deadlines_unguarded hu
  obtain ⟨hn, w', hw', htold⟩ := hcache 0x8000000000000000
  have hl : w.launcher = .ofConfig Config.patient := (Sweep.ofConfig?_eq_ok hw).2.2
  have hl' : w'.launcher = .ofConfig (Config.unswept.caching 0x8000000000000000) :=
    (Sweep.ofConfig?_eq_ok hw').2.2
  have hplan : (Scenario.nothing, Variant.hoarding) ∈ w'.plan [Scenario.nothing] := by
    have hmatrix : w'.matrix = ⟨(Config.unswept.caching 0x8000000000000000).matrix⟩ :=
      (Config.matrix?_eq_ok_iff.mp (Sweep.ofConfig?_eq_ok hw').1).2
    rw [Sweep.plan, List.flatMap_singleton, Sweep.matrixOf, hmatrix]
    exact List.mem_singleton_self _
  obtain ⟨s', h, hstart, hfiles⟩ : ∃ s' h, (w'.launcher.start Ward.obedient Variant.hoarding
      ⟨[], [], []⟩).run { mounted := false } = (.ok (.ok h), s') ∧ (0 : ℤ) ≤ s'.files.now := by
    rw [hl']
    exact ⟨_, _, rfl, by decide⟩
  obtain ⟨h₁, s₁, s₂, hgiven⟩ : ∃ h₁ s₁ s₂,
      (w.launcher.launch Ward.obedient ⟨[]⟩ ⟨[], [], []⟩).run { mounted := false } =
        (.ok (.ok h₁), s₁) ∧
      clockEnd ≤ Ward.obedient.now s₁ + Config.patient.timeouts.mount.nanos ∧
      (h₁.abandon Ward.obedient).run s₁ = (.ok (), s₂) := by
    rw [hl]
    exact ⟨_, _, _, rfl, by decide, rfl⟩
  refine ⟨hp, ⟨w, hw, ⟨s₂, hdl.mount.mpr ⟨h₁, s₁, hgiven⟩⟩, fun _ ↦
    hdl.drain.mpr ⟨rfl, by decide⟩⟩, hu, hn, w', hw', hplan, s', h, hstart,
    (hwait.cacheFails hfiles).mpr ?_⟩
  rw [htold _ _ _ hplan _ (Ward.sweepHost Ward.obedient) _ _ _ _ hstart]
  have hend : clockEnd ≤ (Span.ofSecs ((0x8000000000000000 : UInt64).toNat + 0)).nanos := by
    decide
  refine ⟨by decide, ?_⟩
  dsimp only
  omega

end MountSweep
