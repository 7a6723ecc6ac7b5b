import MountSweep.Proofs.Pinning
import MountSweep.Proofs.Service.Life

namespace MountSweep

open Posix Scenario

variable {o : ServiceOptions} {xs : List Setting} {conf : Path}

namespace ServiceOptions.Holds

theorem cacheTimeout_mem (o : ServiceOptions) :
    Setting.cacheTimeout o.cacheTimeout ∈ o.settings := by
  simp [settings]

theorem uncached_iff (ho : o.Holds xs) (hz : o.cacheTimeout = 0) :
    "dir_cache=no" ∈ xs.flatMap (·.options conf) ↔ Axis.cacheTimeout ∈ xs.map Setting.axis := by
  rw [List.mem_flatMap, List.mem_map]
  constructor
  · rintro ⟨x, hx, hopt⟩
    have howner := Setting.owner_of_mem_options hopt
    exact ⟨x, hx, by simpa [optionName, Setting.owner, eq_comm] using howner⟩
  · rintro ⟨x, hx, haxis⟩
    have hx' : x = .cacheTimeout o.cacheTimeout :=
      Setting.eq_of_mem_settings (ho.made x hx) (cacheTimeout_mem o) haxis
    exact ⟨x, hx, by simp [hx', hz, Setting.options]⟩

theorem cacheTimeout_of_unset (ho : o.Holds xs) (h : Axis.cacheTimeout ∉ xs.map Setting.axis) :
    o.cacheTimeout = 0 := by
  rcases ho.rest _ (cacheTimeout_mem o) with hx | hx
  · exact absurd (List.mem_map_of_mem (f := Setting.axis) hx) h
  · simpa [settings] using hx

end ServiceOptions.Holds

theorem Setting.optionName_of_unset (h : Axis.cacheTimeout ∉ xs.map Setting.axis) :
    ∀ opt ∈ xs.flatMap (·.options conf), optionName opt ∉ ["dir_cache", "dcache_timeout"] := by
  intro opt hopt hname
  obtain ⟨x, hx, hopt⟩ := List.mem_flatMap.mp hopt
  have hcache : owner (optionName opt) = some Axis.cacheTimeout := by
    simp only [List.mem_cons, List.not_mem_nil, or_false] at hname
    rcases hname with hname | hname <;> rw [hname] <;> rfl
  have haxis : x.axis = Axis.cacheTimeout :=
    Option.some.inj ((owner_of_mem_options hopt).symm.trans hcache)
  exact h (List.mem_map.mpr ⟨x, hx, haxis⟩)

namespace Sweep

variable {c : Config} {w : Sweep} {scenarios : List Scenario} {sc : Scenario} {v : Variant}

theorem exists_ofConfig?_eq_ok (hc : c.validate = .ok ()) : ∃ w, ofConfig? c = .ok w := by
  have husable := Config.validate_eq_ok_iff.mp hc
  obtain ⟨rules, hrules⟩ := Config.exists_rules?_eq_ok_iff.mpr husable.patterns
  have hmatrix := Config.matrix?_eq_ok_iff.mpr ⟨husable.axes, rfl⟩
  exact ⟨_, bind_eq_ok_iff.mpr ⟨(), hc, bind_eq_ok_iff.mpr ⟨_, hmatrix,
    bind_eq_ok_iff.mpr ⟨rules, hrules, rfl⟩⟩⟩⟩

/-- A planned variant stands for settings on different axes, which are those that are configured
and that of the mapping mode. -/
theorem settings_of_mem_plan (hw : ofConfig? c = .ok w) (hv : (sc, v) ∈ w.plan scenarios) :
    ∃ xs, v.settings = .ok xs ∧ (xs.map Setting.axis).Nodup ∧
      ∀ axis, axis ≠ Axis.nameMap →
        (axis ∈ xs.map Setting.axis ↔ axis ∈ c.matrix.map Axis.name) := by
  obtain ⟨husable, hmatrix⟩ := Config.matrix?_eq_ok_iff.mp (ofConfig?_eq_ok hw).1
  have hpinned : Matrix.Pinned Axis.nameMap (.str sc.nameMap.name) c.matrix
      (w.matrixOf sc).axes := by
    rw [matrixOf, hmatrix]
    exact Matrix.pinAxes_pinned husable.nodup
  have hchooses := chooses_of_mem_plan hv
  obtain ⟨xs, hxs⟩ := hchooses.settings_ok (hpinned.understood husable.understood)
  have haxes : xs.map Setting.axis = (w.matrixOf sc).axes.map Axis.name := by
    rw [← hchooses.map_fst, v.settings_eq_ok_iff.mp hxs, List.map_map]
    rfl
  refine ⟨xs, hxs, haxes ▸ (hpinned.wellFormed husable.toWellFormed).nodup, fun axis haxis ↦ ?_⟩
  -- The mapping mode is the only axis that pinning can have added.
  rcases hpinned.map_name with hnames | ⟨-, hnames⟩
  · rw [haxes, hnames]
  · simp [haxes, hnames, haxis]

/-- What is said of the cache of a service of a variant: to the service, in the options `opts` on
its command line, and to whoever waits for its cache. -/
structure Caching (c : Config) (w : Sweep) (v : Variant) (dirs : ServiceDirs) (o : ServiceOptions)
    (opts : List String) : Prop where
  options : v.options = .ok o
  commandLine : w.launcher.commandLine v dirs = .ok (c.service.wrapper ++
    [c.service.binary.display, "-f", c.service.host ++ ":" ++ dirs.src.display, dirs.mnt.display] ++
      opts.flatMap Axis.option ++ ServiceLauncher.baselineOptions)
  handle {σ : Type} {host : ServiceHost σ} {s s' : σ} {h : ServiceHandle} :
    (w.launcher.start host v dirs).run s = (.ok (.ok h), s') → h.cacheTimeout = o.cacheTimeout
  noWait {σ : Type} {host : SweepHost σ} {s s' : σ} {h : ServiceHandle} :
    (w.launcher.start host.toServiceHost v dirs).run s = (.ok (.ok h), s') → o.cacheTimeout = 0 →
      ∀ margin, Check.waitForCache (w.context host h) margin = pure ()
  cached : "dir_cache=yes" ∈ opts ↔ o.cacheTimeout ≠ 0
  uncached : o.cacheTimeout = 0 →
    ("dir_cache=no" ∈ opts ↔ Axis.cacheTimeout ∈ c.matrix.map Axis.name)
  unswept : Axis.cacheTimeout ∉ c.matrix.map Axis.name →
    o.cacheTimeout = 0 ∧ ∀ opt ∈ opts, optionName opt ∉ ["dir_cache", "dcache_timeout"]

theorem start_cacheTimeout {σ : Type} {host : ServiceHost σ} {l : ServiceLauncher}
    {dirs : ServiceDirs} {s s' : σ} {h : ServiceHandle} (ho : v.options = .ok o)
    (hs : (l.start host v dirs).run s = (.ok (.ok h), s')) : h.cacheTimeout = o.cacheTimeout := by
  obtain ⟨-, -, -, -, o', ho', htimeout⟩ := ServiceLauncher.start_handle hs
  cases ho.symm.trans ho'
  exact htimeout

theorem waitForCache_of_uncached {ctx : Context} (h : ctx.cacheTimeout = 0) (margin : ℕ) :
    Check.waitForCache ctx margin = pure () := by
  rw [Check.waitForCache, if_pos h]

/-- A planned service that is said not to cache directories is told so exactly if the axis of the
cache is swept. If it is not, every service is said not to cache them, and none is told anything of
its cache. -/
theorem uncached_iff_swept (hc : c.validate = .ok ()) :
    ∃ w, ofConfig? c = .ok w ∧ ∀ scenarios sc v, (sc, v) ∈ w.plan scenarios → ∀ dirs,
      ∃ o opts, Caching c w v dirs o opts := by
  obtain ⟨w, hw⟩ := exists_ofConfig?_eq_ok hc
  refine ⟨w, hw, fun scenarios sc v hv dirs ↦ ?_⟩
  obtain ⟨xs, hxs, hd, haxes⟩ := settings_of_mem_plan hw hv
  have hholds := ServiceOptions.Holds.foldl hd
  have hagrees : v.Agrees dirs.conf _ (xs.flatMap (·.options dirs.conf)) :=
    hholds.agrees (v.settings_eq_ok_iff.mp hxs) hd
  have hswept := haxes Axis.cacheTimeout (by decide)
  have hoptions := Variant.options_of_settings hxs
  refine ⟨_, xs.flatMap (·.options dirs.conf), hoptions, ?_, start_cacheTimeout hoptions,
    fun hs hz ↦ waitForCache_of_uncached ((start_cacheTimeout hoptions hs).trans hz), ?_,
    fun hz ↦ ?_, fun hleft ↦ ?_⟩
  · rw [(ofConfig?_eq_ok hw).2.2]
    exact ServiceLauncher.commandLine_eq_settings _ dirs hxs
  · rw [hagrees.cached, ← UInt64.pos_iff_ne_zero, UInt64.lt_iff_toNat_lt]
    rfl
  · rw [← hswept]
    exact hholds.uncached_iff hz
  · rw [← hswept] at hleft
    exact ⟨hholds.cacheTimeout_of_unset hleft, Setting.optionName_of_unset hleft⟩

end Sweep

def Config.unswept : Config := { matrix := [⟨Axis.debug, [.bool false]⟩], falsePositives := [] }

/-- Nobody waits for the cache of a service that has not been told to do without. -/
theorem unswept_cache_unsaid :
    Config.unswept.validate = .ok () ∧ ∃ w, Sweep.ofConfig? Config.unswept = .ok w ∧
      (Scenario.nothing, ⟨[(Axis.debug, .bool false), (Axis.nameMap, .str "none")]⟩) ∈
        w.plan [Scenario.nothing] ∧
      ∀ dirs, ∃ o opts, Sweep.Caching Config.unswept w
        ⟨[(Axis.debug, .bool false), (Axis.nameMap, .str "none")]⟩ dirs o opts ∧
        o.cacheTimeout = 0 ∧ "dir_cache=no" ∉ opts := by
  have hc : Config.unswept.validate = .ok () := by decide
  obtain ⟨w, hw, hplan⟩ := Sweep.uncached_iff_swept hc
  have hmatrix : w.matrix = ⟨Config.unswept.matrix⟩ :=
    (Config.matrix?_eq_ok_iff.mp (Sweep.ofConfig?_eq_ok hw).1).2
  have hmem : (Scenario.nothing, ⟨[(Axis.debug, .bool false), (Axis.nameMap, .str "none")]⟩) ∈
      w.plan [Scenario.nothing] := by
    rw [Sweep.plan, List.flatMap_singleton, Sweep.matrixOf, hmatrix]
    exact List.mem_singleton_self _
  refine ⟨hc, w, hw, hmem, fun dirs ↦ ?_⟩
  obtain ⟨o, opts, hcaching⟩ := hplan _ _ _ hmem dirs
  have hleft : Axis.cacheTimeout ∉ Config.unswept.matrix.map Axis.name := by decide
  have hzero := (hcaching.unswept hleft).1
  exact ⟨o, opts, hcaching, hzero, fun hopt ↦ hleft ((hcaching.uncached hzero).mp hopt)⟩

end MountSweep
