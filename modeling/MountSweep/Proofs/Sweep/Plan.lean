import MountSweep.Proofs.Sweep.Window
import MountSweep.Proofs.Validation
import MountSweep.Proofs.Views

namespace MountSweep

open MountSweep.Matrix Posix

/-- The axes `axes` with the one called `name` fixed to a value: it keeps its place, or comes last
if it is new. -/
inductive Matrix.Pinned (name : String) (value : AxisValue) : List Axis → List Axis → Prop
  | inPlace {before after : List Axis} {a : Axis} (ha : a.name = name)
      (hother : ∀ b ∈ before ++ after, b.name ≠ name) :
      Pinned name value (before ++ a :: after) (before ++ ⟨name, [value]⟩ :: after)
  | atEnd {axes : List Axis} (hother : ∀ b ∈ axes, b.name ≠ name) :
      Pinned name value axes (axes ++ [⟨name, [value]⟩])

def Variant.Chooses (v : Variant) (axes : List Axis) : Prop :=
  List.Forall₂ (fun a e ↦ e.1 = a.name ∧ e.2 ∈ a.values) axes v.entries

variable {axes axes' : List Axis} {name : String} {value : AxisValue} {v : Variant}
  {mode : NameMapMode}

namespace Matrix

theorem Pinned.cons {a : Axis} (ha : a.name ≠ name) (h : Pinned name value axes axes') :
    Pinned name value (a :: axes) (a :: axes') := by
  cases h with
  | @inPlace before after b hb hother =>
    exact @inPlace _ _ (a :: before) after b hb (List.forall_mem_cons.mpr ⟨ha, hother⟩)
  | atEnd hother => exact @atEnd _ _ (a :: axes) (List.forall_mem_cons.mpr ⟨ha, hother⟩)

theorem pinAxes_pinned (hd : (axes.map Axis.name).Nodup) :
    Pinned name value axes (pinAxes name value axes) := by
  induction axes with
  | nil => exact @Pinned.atEnd _ _ [] nofun
  | cons a axes ih =>
    obtain ⟨ha, hd⟩ := List.nodup_cons.mp hd
    by_cases hname : a.name = name
    · rw [pinAxes, if_pos hname, hname]
      refine @Pinned.inPlace _ _ [] axes a hname fun b hb hbname ↦ ha ?_
      rw [hname, ← hbname]
      exact List.mem_map_of_mem hb
    · rw [pinAxes, if_neg hname]
      exact (ih hd).cons hname

/-- An axis of a pinned matrix is the one that is pinned or an axis of another name. -/
theorem Pinned.of_mem (h : Pinned name value axes axes') {a : Axis} (ha : a ∈ axes') :
    a = ⟨name, [value]⟩ ∨ a ∈ axes ∧ a.name ≠ name := by
  cases h with
  | @inPlace before after b hb hother =>
    simp only [List.mem_append, List.mem_cons] at ha hother ⊢
    rcases ha with ha | rfl | ha
    · exact .inr ⟨.inl ha, hother a (.inl ha)⟩
    · exact .inl rfl
    · exact .inr ⟨.inr (.inr ha), hother a (.inr ha)⟩
  | atEnd hother =>
    rcases List.mem_append.mp ha with ha | ha
    · exact .inr ⟨ha, hother a ha⟩
    · exact .inl (List.mem_singleton.mp ha)

theorem Pinned.mem (h : Pinned name value axes axes') : ⟨name, [value]⟩ ∈ axes' := by
  cases h <;> simp

theorem mem_product {es : List (String × AxisValue)} :
    es ∈ product axes ↔ List.Forall₂ (fun a e ↦ e.1 = a.name ∧ e.2 ∈ a.values) axes es := by
  induction axes generalizing es with
  | nil => simp [product]
  | cons a axes ih =>
    simp only [product, List.forall₂_cons_left_iff, List.mem_flatMap, List.mem_map, ih]
    constructor
    · rintro ⟨x, hx, tail, htail, rfl⟩
      exact ⟨(a.name, x), tail, ⟨rfl, hx⟩, htail, rfl⟩
    · rintro ⟨⟨_, x⟩, tail, ⟨rfl, hx⟩, htail, rfl⟩
      exact ⟨x, hx, tail, htail, rfl⟩

theorem mem_variants {m : Matrix} : v ∈ m.variants ↔ v.Chooses m.axes := by
  rw [variants, List.mem_map]
  constructor
  · rintro ⟨es, hes, rfl⟩
    exact mem_product.mp hes
  · intro hv
    exact ⟨v.entries, mem_product.mpr hv, rfl⟩

def Understood (axes : List Axis) : Prop :=
  ∀ a ∈ axes, ∀ x ∈ a.values, ∃ setting, Setting.ofValue a.name x = .ok setting

theorem Usable.understood (h : Usable axes) : Understood axes := by
  intro a ha x hx
  obtain ⟨setting, hsetting⟩ := (isKnown_iff (h.values a ha)).mp (h.known a ha) x hx
  exact ⟨setting, Setting.ofValue_eq_ok_iff.mpr hsetting⟩

theorem Pinned.understood (h : Pinned Axis.nameMap (.str mode.name) axes axes')
    (hu : Understood axes) : Understood axes' := by
  intro a ha x hx
  rcases h.of_mem ha with rfl | ⟨ha, -⟩
  · rw [List.mem_singleton.mp hx]
    exact ⟨_, Setting.ofValue_nameMap mode⟩
  · exact hu a ha x hx

end Matrix

namespace Variant.Chooses

theorem settings_ok (h : v.Chooses axes) (hu : Understood axes) :
    ∃ xs, v.settings = .ok xs := by
  refine exists_mapM_eq_ok fun e he ↦ ?_
  obtain ⟨a, ha, hname, hvalue⟩ := exists_of_forall₂_right h he
  rw [hname]
  exact hu a ha e.2 hvalue

theorem eq_of_pinned (h : v.Chooses axes') (hp : Pinned name value axes axes')
    {e : String × AxisValue} (he : e ∈ v.entries) (hname : e.1 = name) : e.2 = value := by
  obtain ⟨a, ha, haname, hvalue⟩ := exists_of_forall₂_right h he
  rcases hp.of_mem ha with rfl | ⟨-, hne⟩
  · exact List.mem_singleton.mp hvalue
  · exact absurd (haname.symm.trans hname) hne

theorem mem_of_pinned (h : v.Chooses axes') (hp : Pinned name value axes axes') :
    (name, value) ∈ v.entries := by
  obtain ⟨e, he, hname, hvalue⟩ := exists_of_forall₂_left h hp.mem
  have hentry : e = (name, value) := Prod.ext hname (List.mem_singleton.mp hvalue)
  exact hentry ▸ he

theorem nameMap (h : v.Chooses axes')
    (hp : Pinned Axis.nameMap (.str mode.name) axes axes') {xs : List Setting}
    (hxs : v.settings = .ok xs) : (xs.foldl Setting.apply {}).nameMap = mode := by
  have hxs := mapM_eq_ok_iff.mp hxs
  refine Setting.nameMap_foldl (fun m hm ↦ ?_) (.inr ?_)
  · obtain ⟨e, he, hset⟩ := exists_of_forall₂_right hxs hm
    have hname := Setting.eq_nameMap_of_ofValue hset
    rw [hname, h.eq_of_pinned hp he hname, Setting.ofValue_nameMap] at hset
    cases hset
    rfl
  · obtain ⟨x, hx, hset⟩ := exists_of_forall₂_left hxs (h.mem_of_pinned hp)
    rw [Setting.ofValue_nameMap] at hset
    exact Except.ok.inj hset ▸ hx

end Variant.Chooses

namespace Sweep

variable {σ : Type} {host : SweepHost σ} {c : Config} {w : Sweep} {s s' : σ}

theorem ofConfig?_eq_ok (h : ofConfig? c = .ok w) :
    c.matrix? = .ok w.matrix ∧ c.rules? = .ok w.rules ∧ w.launcher = .ofConfig c := by
  obtain ⟨_, -, h⟩ := bind_eq_ok_iff.mp h
  obtain ⟨m, hm, h⟩ := bind_eq_ok_iff.mp h
  obtain ⟨rules, hrules, h⟩ := bind_eq_ok_iff.mp h
  cases h
  exact ⟨hm, hrules, rfl⟩

theorem prepareData_eq_ok {w₀ : Sweep} (h : (w₀.prepareData host).run s = (.ok (.ok w), s')) :
    ∃ path, w = { w₀ with dataPath := path } := by
  obtain ⟨made, s₁, -, h⟩ := Act.run_bind_eq_ok.mp h
  cases made with
  | error e => cases h
  | ok dir =>
    obtain ⟨_, s₂, -, h⟩ := Act.run_bind_eq_ok.mp h
    split at h
    · cases h
    · obtain ⟨_, s₃, -, h⟩ := Act.run_bind_eq_ok.mp h
      cases h
      exact ⟨_, rfl⟩

/-- A sweep that is ready is that of a usable configuration; only the place of the data file is
the machine's. -/
theorem ofConfig?_of_prepare (h : (prepare host c).run s = (.ok (.ok w), s')) :
    ∃ w₀ path, ofConfig? c = .ok w₀ ∧ w = { w₀ with dataPath := path } := by
  rw [prepare] at h
  cases hw : ofConfig? c with
  | error e =>
    rw [hw] at h
    cases h
  | ok w₀ =>
    rw [hw] at h
    obtain ⟨r, s₁, hdata, h⟩ := Act.run_bind_eq_ok.mp h
    cases r with
    | error e => cases h
    | ok w₁ =>
      cases h
      obtain ⟨path, hpath⟩ := prepareData_eq_ok hdata
      exact ⟨w₀, path, rfl, hpath⟩

theorem prepare_eq_ok (h : (prepare host c).run s = (.ok (.ok w), s')) :
    c.matrix? = .ok w.matrix ∧ w.launcher = .ofConfig c := by
  obtain ⟨w₀, path, hw, rfl⟩ := ofConfig?_of_prepare h
  obtain ⟨hmatrix, -, hlauncher⟩ := ofConfig?_eq_ok hw
  exact ⟨hmatrix, hlauncher⟩

theorem exists_of_prepare
    (h : (((prepare host c).run s).1.toOption.bind Except.toOption).isSome) :
    ∃ w s', (prepare host c).run s = (.ok (.ok w), s') := by
  rcases hp : (prepare host c).run s with ⟨_ | _ | w, s'⟩
  · rw [hp] at h
    cases h
  · rw [hp] at h
    cases h
  · exact ⟨w, s', rfl⟩

theorem axes_of_prepare (h : (prepare host c).run s = (.ok (.ok w), s')) :
    w.matrix = ⟨c.matrix⟩ ∧ (c.matrix.map Axis.name).Nodup ∧ Understood c.matrix := by
  obtain ⟨husable, hmatrix⟩ := Config.matrix?_eq_ok_iff.mp (prepare_eq_ok h).1
  exact ⟨hmatrix, husable.nodup, husable.understood⟩

/-- A variant that a launcher of a configuration can launch: it has options with the mapping mode
`mode`, its command line is that of the configuration with options of its own, and only the answers
of a machine can make its start fail. -/
structure Launchable (c : Config) (l : ServiceLauncher) (mode : NameMapMode) (v : Variant)
    (dirs : ServiceDirs) : Prop where
  options : ∃ o, v.options = .ok o ∧ o.nameMap = mode
  commandLine : ∃ opts : List String, l.commandLine v dirs = .ok (c.service.wrapper ++
    [c.service.binary.display, "-f", c.service.host ++ ":" ++ dirs.src.display, dirs.mnt.display] ++
      opts.flatMap Axis.option ++ ["-o", "entry_timeout=0", "-o", "attr_timeout=0"])
  start : ∀ {τ : Type} (machine : ServiceHost τ) (t t' : τ) (x : Error),
    (l.start machine v dirs).run t = (.ok (.error x), t') →
      ∃ program args e, l.commandLine v dirs = .ok (program :: args) ∧ x = .setup e ∧
        l.Fails machine dirs mode program args e

theorem launchable_of_settings {xs : List Setting} (hxs : v.settings = .ok xs)
    (hmode : (xs.foldl Setting.apply {}).nameMap = mode) (dirs : ServiceDirs) :
    Launchable c (.ofConfig c) mode v dirs := by
  have ho := Variant.options_of_settings hxs
  refine ⟨⟨_, ho, hmode⟩, ⟨_, ServiceLauncher.commandLine_eq_settings _ dirs hxs⟩,
    fun machine t t' x hstart ↦ ?_⟩
  obtain ⟨program, args, hline⟩ := ServiceLauncher.commandLine_of_settings (.ofConfig c) dirs hxs
  obtain ⟨e, rfl, he⟩ := ServiceLauncher.start_fails ho hline hstart
  exact ⟨program, args, e, hline, rfl, hmode ▸ he⟩

theorem chooses_of_mem_plan {scenarios : List Scenario} {sc : Scenario}
    (h : (sc, v) ∈ w.plan scenarios) : v.Chooses (w.matrixOf sc).axes := by
  obtain ⟨sc', -, h⟩ := List.mem_flatMap.mp h
  obtain ⟨v', hv, heq⟩ := List.mem_map.mp h
  cases heq
  exact mem_variants.mp hv

theorem mem_scenarios_of_mem_plan {scenarios : List Scenario} {sc : Scenario}
    (h : (sc, v) ∈ w.plan scenarios) : sc ∈ scenarios := by
  obtain ⟨sc', hsc, h⟩ := List.mem_flatMap.mp h
  obtain ⟨v', -, heq⟩ := List.mem_map.mp h
  cases heq
  exact hsc

/-- The plan of a configuration that is accepted goes through the scenarios in order, and for each
through the variants of the configured axes with the mapping mode of the scenario; and whatever it
holds can be launched. -/
theorem plan_launchable (h : (prepare host c).run s = (.ok (.ok w), s'))
    (scenarios : List Scenario) :
    (∃ axes : NameMapMode → List Axis,
      (∀ mode, Pinned Axis.nameMap (.str mode.name) c.matrix (axes mode)) ∧
      (∀ mode v, v ∈ variants ⟨axes mode⟩ ↔ v.Chooses (axes mode)) ∧
      w.plan scenarios = scenarios.flatMap fun sc ↦ (variants ⟨axes sc.nameMap⟩).map (sc, ·)) ∧
    ∀ sc v, (sc, v) ∈ w.plan scenarios →
      ∀ dirs, Launchable c w.launcher sc.nameMap v dirs := by
  obtain ⟨haxes, hd, hu⟩ := axes_of_prepare h
  have hpinned (mode : NameMapMode) : Pinned Axis.nameMap (.str mode.name) c.matrix
      (pinAxes Axis.nameMap (.str mode.name) w.matrix.axes) := by
    rw [haxes]
    exact pinAxes_pinned hd
  refine ⟨⟨_, hpinned, fun _ _ ↦ mem_variants, rfl⟩, fun sc v hv dirs ↦ ?_⟩
  have hchooses := chooses_of_mem_plan hv
  obtain ⟨xs, hxs⟩ := hchooses.settings_ok ((hpinned sc.nameMap).understood hu)
  rw [(prepare_eq_ok h).2]
  exact launchable_of_settings hxs (hchooses.nameMap (hpinned sc.nameMap) hxs) dirs

end Sweep

def Config.mapped : Config :=
  { matrix := [⟨Axis.nameMap, [.str "none", .str "user"]⟩, ⟨Axis.debug, [.bool true]⟩]
    falsePositives := [] }

def Ward.furnished : Ward :=
  { mounted := false
    files :=
      { inodes := [(1, { node := .dir [(Bytes.ofString "run", 2)] 1, mode := 0o755 }),
          (2, { node := .dir [] 1, mode := 0o755 })]
        next := 3, cwd := 1 } }

/-- The mode of a scenario takes the place of the modes that are configured. -/
theorem mapped_plan_launchable :
    ∃ w s', (Sweep.prepare (Ward.sweepHost Ward.obedient) Config.mapped).run Ward.furnished =
        (.ok (.ok w), s') ∧
      ∀ dirs, Sweep.Launchable Config.mapped w.launcher .none
        ⟨[(Axis.nameMap, .str "none"), (Axis.debug, .bool true)]⟩ dirs := by
  have hready : (((Sweep.prepare (Ward.sweepHost Ward.obedient) Config.mapped).run
      Ward.furnished).1.toOption.bind Except.toOption).isSome := by decide +kernel
  rcases h : (Sweep.prepare (Ward.sweepHost Ward.obedient) Config.mapped).run Ward.furnished with
    ⟨_ | _ | w, s'⟩
  · rw [h] at hready
    cases hready
  · rw [h] at hready
    cases hready
  · refine ⟨w, s', rfl, (Sweep.plan_launchable h [Scenario.nothing]).2 Scenario.nothing _ ?_⟩
    rw [Sweep.plan, List.flatMap_singleton, Sweep.matrixOf, (Sweep.axes_of_prepare h).1]
    exact List.mem_singleton_self _
end MountSweep
