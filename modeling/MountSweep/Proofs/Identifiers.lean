import Mathlib.Data.List.Nodup
import MountSweep.Proofs.Sweep.Plan

namespace MountSweep

open MountSweep.Matrix Posix

theorem append_cons_inj_of_notMem_right {α : Type} {x : α} {a b c d : List α} (hb : x ∉ b)
    (hd : x ∉ d) (h : a ++ x :: b = c ++ x :: d) : a = c ∧ b = d := by
  rcases List.append_eq_append_iff.mp h with ⟨between, rfl, hrest⟩ | ⟨between, rfl, hrest⟩
  · cases between with
    | nil => simpa using hrest
    | cons y between =>
      obtain ⟨-, rfl⟩ := List.cons.inj hrest
      exact absurd (List.mem_append_right _ List.mem_cons_self) hb
  · cases between with
    | nil => simpa [eq_comm] using hrest
    | cons y between =>
      obtain ⟨-, rfl⟩ := List.cons.inj hrest
      exact absurd (List.mem_append_right _ List.mem_cons_self) hd

section

variable {α : Type} {c : α} {ls ms : List (List α)}

theorem notMem_intercalate {sep : List α} (hsep : c ∉ sep) (h : ∀ l ∈ ls, c ∉ l) :
    c ∉ sep.intercalate ls := by
  induction ls with
  | nil => simp
  | cons l ls ih =>
    obtain ⟨hl, hls⟩ := List.forall_mem_cons.mp h
    by_cases hnil : ls = []
    · simpa [hnil] using hl
    · rw [List.intercalate_cons_of_ne_nil hnil, List.mem_append, List.mem_append]
      exact not_or.mpr ⟨not_or.mpr ⟨hl, hsep⟩, ih hls⟩

theorem intercalate_inj [BEq α] [LawfulBEq α] (hl : ∀ l ∈ ls, c ∉ l ∧ l ≠ [])
    (hm : ∀ l ∈ ms, c ∉ l ∧ l ≠ []) (h : [c].intercalate ls = [c].intercalate ms) : ls = ms := by
  -- The text of no pieces is that of one empty piece, so it is read back apart.
  have hread {ks : List (List α)} (hk : ∀ l ∈ ks, c ∉ l ∧ l ≠ []) :
      ks = if [c].intercalate ks = [] then [] else ([c].intercalate ks).splitOn c := by
    cases ks with
    | nil => simp
    | cons l ks =>
      have hsplit := List.splitOn_intercalate c (fun l hl ↦ (hk l hl).1) (List.cons_ne_nil l ks)
      have hne : [c].intercalate (l :: ks) ≠ [] := by
        intro hempty
        rw [hempty] at hsplit
        obtain ⟨hl, -⟩ := List.cons.inj hsplit
        exact (hk l List.mem_cons_self).2 hl.symm
      rw [if_neg hne, hsplit]
  rw [hread hl, h, ← hread hm]

end

def separators : List Char := ['-', '=', '[']

def IsWord (c : Char) : Prop := c.isAlphanum = true ∨ c = '_'

theorem not_isWord_of_mem_separators {c : Char} (hc : c ∈ separators) : ¬ IsWord c := by
  revert c
  simp [separators, IsWord]

theorem AxisValue.bool_display_injective : Function.Injective fun b ↦ (bool b).display := by
  intro b b' h
  cases b <;> cases b' <;> simp_all [display]

theorem AxisValue.int_display_injective : Function.Injective fun n ↦ (int n).display := by
  intro m n h
  exact UInt64.toNat_inj.mp (eq_of_toString_eq h)

theorem NameMapMode.name_injective : Function.Injective name := by
  intro m m' h
  have hm := ofName?_name m
  rw [h, ofName?_name m'] at hm
  exact (Except.ok.inj hm).symm

namespace Setting

variable {x y : Setting} {xs ys : List Setting}

def text (x : Setting) : String := Variant.entryId x.entry

theorem toList_text (x : Setting) :
    x.text.toList = x.axis.toList ++ '=' :: x.entry.2.display.toList := by
  simp [text, Variant.entryId, axis]

theorem isWord_of_mem_axis (x : Setting) : ∀ c ∈ x.axis.toList, IsWord c := by
  cases x <;>
    simp [IsWord, axis, entry, Axis.debug, Axis.cacheTimeout, Axis.syncReaddir, Axis.multiconn,
      Axis.nameMap]

theorem isWord_of_mem_display (x : Setting) : ∀ c ∈ x.entry.2.display.toList, IsWord c := by
  cases x with
  | debug b | syncReaddir b | multiconn b =>
    cases b <;> simp [IsWord, entry, AxisValue.display]
  | cacheTimeout n =>
    intro c hmem
    have hdigits : c ∈ Nat.toDigits 10 n.toNat := by
      simpa [entry, AxisValue.display] using hmem
    have hdigit : c.isDigit = true := Nat.isDigit_of_mem_toDigits (by decide) (by decide) hdigits
    exact .inl (by rw [Char.isAlphanum, hdigit, Bool.or_true])
  | nameMap mode =>
    cases mode <;> simp [IsWord, entry, AxisValue.display, NameMapMode.name]

theorem notMem_display (x : Setting) : ∀ c ∈ separators, c ∉ x.entry.2.display.toList :=
  fun c hc hmem ↦ not_isWord_of_mem_separators hc (x.isWord_of_mem_display c hmem)

theorem notMem_text (x : Setting) {c : Char} (hc : ¬ IsWord c) (hne : c ≠ '=') :
    c ∉ x.text.toList := by
  rw [toList_text, List.mem_append, List.mem_cons]
  rintro (h | rfl | h)
  · exact hc (x.isWord_of_mem_axis c h)
  · exact hne rfl
  · exact hc (x.isWord_of_mem_display c h)

theorem eq_of_display_eq (haxis : x.axis = y.axis)
    (h : x.entry.2.display = y.entry.2.display) : x = y := by
  cases x <;> cases y <;>
    simp [axis, entry, Axis.debug, Axis.cacheTimeout, Axis.syncReaddir, Axis.multiconn,
      Axis.nameMap] at haxis
  case debug.debug b b' => rw [AxisValue.bool_display_injective h]
  case cacheTimeout.cacheTimeout n n' => rw [AxisValue.int_display_injective h]
  case syncReaddir.syncReaddir b b' => rw [AxisValue.bool_display_injective h]
  case multiconn.multiconn b b' => rw [AxisValue.bool_display_injective h]
  case nameMap.nameMap m m' => rw [NameMapMode.name_injective h]

theorem text_injective : Function.Injective text := by
  intro x y h
  have hlist := congrArg String.toList h
  rw [toList_text, toList_text] at hlist
  have heq : '=' ∈ separators := by decide
  obtain ⟨haxis, hdisplay⟩ :=
    append_cons_inj_of_notMem_right (x.notMem_display _ heq) (y.notMem_display _ heq) hlist
  exact eq_of_display_eq (String.toList_inj.mp haxis) (String.toList_inj.mp hdisplay)

end Setting

namespace Variant

def Accepted (v : Variant) : Prop :=
  ∀ e ∈ v.entries, ∃ conf args, Axis.args e.1 e.2 conf = .ok args

variable {v v' : Variant} {xs ys : List Setting} {axes : List Axis}

theorem Accepted.settings (h : v.Accepted) :
    ∃ xs : List Setting, v.entries = xs.map Setting.entry := by
  have hok : ∀ e ∈ v.entries, ∃ x, Setting.ofValue e.1 e.2 = .ok x := by
    intro e he
    obtain ⟨conf, args, hargs⟩ := h e he
    rw [Setting.args_eq] at hargs
    obtain ⟨x, hx, -⟩ := map_eq_ok_iff.mp hargs
    exact ⟨x, hx⟩
  obtain ⟨xs, hxs⟩ := exists_mapM_eq_ok hok
  exact ⟨xs, v.settings_eq_ok_iff.mp hxs⟩

theorem Chooses.accepted (h : v.Chooses axes) (hu : Understood axes) : v.Accepted := by
  intro e he
  obtain ⟨a, ha, hname, hvalue⟩ := exists_of_forall₂_right h he
  obtain ⟨x, hx⟩ := hu a ha e.2 hvalue
  refine ⟨[], (x.options []).flatMap Axis.option, ?_⟩
  rw [Setting.args_eq, hname, hx]
  rfl

theorem toList_id (hv : v.entries = xs.map Setting.entry) :
    v.id.toList = ['-'].intercalate (xs.map fun x ↦ x.text.toList) := by
  rw [id, String.toList_intercalate, hv, List.map_map, List.map_map]
  rfl

theorem notMem_id (hv : v.entries = xs.map Setting.entry) {c : Char} (hc : ¬ IsWord c)
    (heq : c ≠ '=') (hdash : c ≠ '-') : c ∉ v.id.toList := by
  rw [toList_id hv]
  refine notMem_intercalate (by simpa using hdash) fun l hl ↦ ?_
  obtain ⟨x, -, rfl⟩ := List.mem_map.mp hl
  exact x.notMem_text hc heq

theorem id_inj (hv : v.Accepted) (hv' : v'.Accepted) (h : v.id = v'.id) : v = v' := by
  obtain ⟨xs, hxs⟩ := hv.settings
  obtain ⟨ys, hys⟩ := hv'.settings
  have hpiece (zs : List Setting) : ∀ l ∈ zs.map fun x ↦ x.text.toList, '-' ∉ l ∧ l ≠ [] := by
    intro l hl
    obtain ⟨x, -, rfl⟩ := List.mem_map.mp hl
    refine ⟨x.notMem_text (not_isWord_of_mem_separators (by decide)) (by decide), ?_⟩
    rw [Setting.toList_text]
    exact List.append_ne_nil_of_right_ne_nil _ (List.cons_ne_nil _ _)
  have hlist := congrArg String.toList h
  rw [toList_id hxs, toList_id hys] at hlist
  have htexts := intercalate_inj (hpiece xs) (hpiece ys) hlist
  have hinj : Function.Injective fun x : Setting ↦ x.text.toList :=
    fun x y hxy ↦ Setting.text_injective (String.toList_inj.mp hxy)
  have hxy : xs = ys := List.map_injective_iff.mpr hinj htexts
  obtain ⟨entries⟩ := v
  obtain ⟨entries'⟩ := v'
  rw [Variant.mk.injEq]
  exact hxs.trans (hxy ▸ hys.symm)

end Variant

/-- Two runs on variants that are understood have one identifier only if they are runs of one
scenario, by its name, on one variant. -/
theorem Scenario.testId_inj {sc sc' : Scenario} {v v' : Variant} (hv : v.Accepted)
    (hv' : v'.Accepted) (h : sc.testId v = sc'.testId v') : sc.name = sc'.name ∧ v = v' := by
  obtain ⟨xs, hxs⟩ := hv.settings
  obtain ⟨ys, hys⟩ := hv'.settings
  have hlist : sc.name.toList ++ '[' :: (v.id.toList ++ [']']) =
      sc'.name.toList ++ '[' :: (v'.id.toList ++ [']']) := by
    simpa [testId] using congrArg String.toList h
  have hlast {w : Variant} {zs : List Setting} (hw : w.entries = zs.map Setting.entry) :
      '[' ∉ w.id.toList ++ [']'] := by
    rw [List.mem_append]
    have hbracket : ¬ IsWord '[' := not_isWord_of_mem_separators (by decide)
    exact not_or.mpr ⟨Variant.notMem_id hw hbracket (by decide) (by decide), by decide⟩
  obtain ⟨hname, hid⟩ := append_cons_inj_of_notMem_right (hlast hxs) (hlast hys) hlist
  exact ⟨String.toList_inj.mp hname,
    Variant.id_inj hv hv' (String.toList_inj.mp (List.append_cancel_right hid))⟩

namespace Matrix

variable {axes axes' : List Axis} {name : String} {value : AxisValue}

theorem nodup_product (h : ∀ a ∈ axes, a.values.Nodup) : (product axes).Nodup := by
  induction axes with
  | nil => simp [product]
  | cons a axes ih =>
    obtain ⟨ha, hrest⟩ := List.forall_mem_cons.mp h
    rw [product, List.nodup_flatMap]
    refine ⟨fun x _ ↦ (ih hrest).map (List.cons_injective), ?_⟩
    refine ha.imp fun {x y} hxy es hx hy ↦ hxy ?_
    obtain ⟨tail, -, rfl⟩ := List.mem_map.mp hx
    obtain ⟨tail', -, heq⟩ := List.mem_map.mp hy
    cases heq
    rfl

theorem nodup_variants {m : Matrix} (h : ∀ a ∈ m.axes, a.values.Nodup) : m.variants.Nodup := by
  refine (nodup_product h).map ?_
  intro es es' heq
  cases heq
  rfl

theorem Pinned.nodup_values (hp : Pinned name value axes axes')
    (h : ∀ a ∈ axes, a.values.Nodup) : ∀ a ∈ axes', a.values.Nodup := by
  intro a ha
  rcases hp.of_mem ha with rfl | ⟨ha, -⟩
  · exact List.nodup_singleton value
  · exact h a ha

end Matrix

namespace Sweep

variable {σ : Type} {host : SweepHost σ} {c : Config} {w : Sweep} {s s' : σ}
  {scenarios : List Scenario}

theorem axes_pinned (h : (prepare host c).run s = (.ok (.ok w), s')) (sc : Scenario) :
    Pinned Axis.nameMap (.str sc.nameMap.name) c.matrix (w.matrixOf sc).axes := by
  obtain ⟨haxes, hd, -⟩ := axes_of_prepare h
  rw [matrixOf, haxes]
  exact pinAxes_pinned hd

theorem accepted_of_mem_plan (h : (prepare host c).run s = (.ok (.ok w), s')) {sc : Scenario}
    {v : Variant} (hp : (sc, v) ∈ w.plan scenarios) : v.Accepted := by
  obtain ⟨-, -, hu⟩ := axes_of_prepare h
  exact (chooses_of_mem_plan hp).accepted ((axes_pinned h sc).understood hu)

theorem nodup_plan (hv : ∀ sc, (w.matrixOf sc).variants.Nodup) (hd : scenarios.Nodup) :
    (w.plan scenarios).Nodup := by
  rw [plan, List.nodup_flatMap]
  refine ⟨fun sc _ ↦ (hv sc).map (fun v v' heq ↦ (Prod.mk.inj heq).2), ?_⟩
  refine hd.imp fun {sc sc'} hne p hp hp' ↦ hne ?_
  obtain ⟨v, -, rfl⟩ := List.mem_map.mp hp
  obtain ⟨v', -, heq⟩ := List.mem_map.mp hp'
  cases heq
  rfl

/-- Identifiers tell runs apart whose variants are understood, whatever their scenarios are called.
In the plan of a configuration that is accepted two runs share an identifier exactly if they share
the name of their scenario and their variant; without repeated values or names, none do. -/
theorem testIds_identify :
    (∀ (sc sc' : Scenario) (v v' : Variant), v.Accepted → v'.Accepted →
      sc.testId v = sc'.testId v' → sc.name = sc'.name ∧ v.entries = v'.entries) ∧
    ∀ {σ : Type} (host : SweepHost σ) (c : Config) (w : Sweep) (s s' : σ),
      (prepare host c).run s = (.ok (.ok w), s') → ∀ scenarios : List Scenario,
      (∀ p ∈ w.plan scenarios, ∀ q ∈ w.plan scenarios,
        p.1.testId p.2 = q.1.testId q.2 ↔ p.1.name = q.1.name ∧ p.2.entries = q.2.entries) ∧
      ((∀ a ∈ c.matrix, a.values.Nodup) → (scenarios.map Scenario.name).Nodup →
        ((w.plan scenarios).map fun p ↦ p.1.testId p.2).Nodup) := by
  refine ⟨fun sc sc' v v' hv hv' h ↦ ?_, fun host c w s s' h scenarios ↦ ⟨?_, ?_⟩⟩
  · obtain ⟨hname, rfl⟩ := Scenario.testId_inj hv hv' h
    exact ⟨hname, rfl⟩
  · rintro ⟨sc, v⟩ hp ⟨sc', v'⟩ hq
    constructor
    · intro hid
      obtain ⟨hname, rfl⟩ :=
        Scenario.testId_inj (accepted_of_mem_plan h hp) (accepted_of_mem_plan h hq) hid
      exact ⟨hname, rfl⟩
    · rintro ⟨hname, hentries⟩
      rw [Scenario.testId, Scenario.testId, hname, Variant.id, Variant.id, hentries]
  · intro hvalues hnames
    have hvariants (sc : Scenario) : (w.matrixOf sc).variants.Nodup :=
      nodup_variants ((axes_pinned h sc).nodup_values hvalues)
    refine List.Nodup.map_on ?_ (nodup_plan hvariants hnames.of_map)
    rintro ⟨sc, v⟩ hp ⟨sc', v'⟩ hq hid
    obtain ⟨hname, rfl⟩ :=
      Scenario.testId_inj (accepted_of_mem_plan h hp) (accepted_of_mem_plan h hq) hid
    have hsc : sc = sc' := List.inj_on_of_nodup_map hnames (mem_scenarios_of_mem_plan hp)
      (mem_scenarios_of_mem_plan hq) hname
    rw [hsc]

end Sweep

/-- A scenario whose name reads like the beginning of an identifier. -/
def Scenario.bracketed : Scenario := { Scenario.nothing with name := "nothing[debug=true-" }

theorem mapped_plan_identified :
    (Variant.Accepted ⟨[(Axis.debug, .bool true)]⟩ ∧
      Scenario.bracketed.testId ⟨[(Axis.debug, .bool true)]⟩ =
        { Scenario.bracketed with requiresRoot := true }.testId ⟨[(Axis.debug, .bool true)]⟩ ∧
      Scenario.bracketed.name = { Scenario.bracketed with requiresRoot := true }.name) ∧
    ∃ w s', (Sweep.prepare (Ward.sweepHost Ward.obedient) Config.mapped).run Ward.furnished =
        (.ok (.ok w), s') ∧
      ((w.plan [Scenario.nothing, Scenario.bracketed]).map fun p ↦ p.1.testId p.2).Nodup := by
  have haccepted : Variant.Accepted ⟨[(Axis.debug, .bool true)]⟩ := by
    intro e he
    rw [List.mem_singleton.mp he]
    exact ⟨[], _, rfl⟩
  refine ⟨⟨haccepted, rfl, ?_⟩, ?_⟩
  · exact (Sweep.testIds_identify.1 _ _ _ _ haccepted haccepted rfl).1
  obtain ⟨w, s', h⟩ : ∃ w s', (Sweep.prepare (Ward.sweepHost Ward.obedient) Config.mapped).run
      Ward.furnished = (.ok (.ok w), s') := Sweep.exists_of_prepare (by decide +kernel)
  refine ⟨w, s', h, ?_⟩
  exact (Sweep.testIds_identify.2 _ _ _ _ _ h [Scenario.nothing, Scenario.bracketed]).2
    (by decide) (by decide)

end MountSweep
