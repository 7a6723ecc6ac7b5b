import MountSweep.Proofs.Enumeration
import MountSweep.Proofs.Sweep.Plan
import MountSweep.Proofs.Validation

namespace MountSweep

variable {m : Matrix} {axes axes' : List Axis} {name name' : String} {value value' : AxisValue}
  {v : Variant}

theorem Variant.Chooses.map_fst (h : v.Chooses axes) :
    v.entries.map Prod.fst = axes.map Axis.name := by
  have hnames : List.Forall₂ (· = ·) (axes.map Axis.name) (v.entries.map Prod.fst) :=
    List.forall₂_map_left_iff.mpr
      (List.forall₂_map_right_iff.mpr (h.imp fun _ _ hentry ↦ hentry.1.symm))
  rw [List.forall₂_eq_eq_eq] at hnames
  exact hnames.symm

namespace Matrix

/-- The matrices that come of an accepted one, or of the default one, by pinning. -/
inductive Arises : Matrix → Prop
  | accepted {axes : List Axis} {m : Matrix} (h : ofAxes? axes = .ok m) : Arises m
  | byDefault : Arises default
  | pin {m : Matrix} (h : Arises m) (name : String) (value : AxisValue) : Arises (m.pin name value)

theorem Pinned.map_name (h : Pinned name value axes axes') :
    axes'.map Axis.name = axes.map Axis.name ∨
      name ∉ axes.map Axis.name ∧ axes'.map Axis.name = axes.map Axis.name ++ [name] := by
  cases h with
  | inPlace ha _ => exact .inl (by simp [ha])
  | atEnd hother => exact .inr (by simpa using hother)

theorem Pinned.wellFormed (h : Pinned name value axes axes') (hw : WellFormed axes) :
    WellFormed axes' := by
  refine ⟨?_, fun a ha ↦ ?_⟩
  · rcases h.map_name with hnames | ⟨hnew, hnames⟩
    · exact hnames ▸ hw.nodup
    · rw [hnames]
      exact (List.perm_append_singleton _ _).nodup_iff.mpr (List.nodup_cons.mpr ⟨hnew, hw.nodup⟩)
  · rcases h.of_mem ha with rfl | ⟨ha, -⟩
    · exact List.cons_ne_nil _ _
    · exact hw.values a ha

theorem Arises.wellFormed (h : m.Arises) : WellFormed m.axes := by
  induction h with
  | accepted h =>
    obtain ⟨hw, rfl⟩ := ofAxes?_eq_ok_iff.mp h
    exact hw
  | byDefault => exact ⟨by decide, by decide⟩
  | pin _ name value ih => exact (pinAxes_pinned ih.nodup).wellFormed ih

theorem Arises.pinned (h : m.Arises) (name : String) (value : AxisValue) :
    Pinned name value m.axes (m.pin name value).axes :=
  pinAxes_pinned h.wellFormed.nodup

theorem get?_of_pinned (h : Pinned name value axes axes') (hv : v.Chooses axes') :
    v.get? name = some value := by
  have hmem := hv.mem_of_pinned h
  cases hget : v.entries.lookup name with
  | none => simpa using List.lookup_eq_none_iff.mp hget _ hmem
  | some x =>
    obtain ⟨before, after, hsplit, -⟩ := List.lookup_eq_some_iff.mp hget
    have hx : (name, x) ∈ v.entries := hsplit ▸ List.mem_append_cons_self
    have hvalue : x = value := hv.eq_of_pinned h hx rfl
    rw [Variant.get?, hget, hvalue]

theorem count_of_pinned (h : Pinned name value axes axes') (hw : WellFormed axes')
    (hv : v.Chooses axes') : (v.entries.map Prod.fst).count name = 1 := by
  rw [hv.map_fst, hw.nodup.count, if_pos (List.mem_map_of_mem h.mem)]

theorem combinations_append (axes axes' : List Axis) :
    combinations (axes ++ axes') = combinations axes * combinations axes' := by
  simp [combinations]

theorem Pinned.combinations_mul {a : Axis} (h : Pinned a.name value axes axes') (ha : a ∈ axes) :
    combinations axes' * a.values.length = combinations axes := by
  cases h with
  | @inPlace before after b hb hother =>
    -- No other axis than the pinned one has its name.
    have hab : a = b := by
      by_contra hne
      refine hother a ?_ rfl
      simp only [List.mem_append, List.mem_cons] at ha ⊢
      tauto
    subst hab
    simp only [combinations_append, combinations_cons, List.length_singleton, Nat.one_mul]
    rw [Nat.mul_assoc, Nat.mul_comm (combinations after)]
  | atEnd hother => exact absurd rfl (hother a ha)

theorem Pinned.combinations_eq (h : Pinned name value axes axes')
    (hnew : ∀ a ∈ axes, a.name ≠ name) :
    combinations axes' = combinations axes := by
  cases h with
  | inPlace ha _ => exact absurd ha (hnew _ List.mem_append_cons_self)
  | atEnd _ => simp [combinations_append]

theorem pinAxes_pinAxes (name : String) (value value' : AxisValue) (axes : List Axis) :
    pinAxes name value' (pinAxes name value axes) = pinAxes name value' axes := by
  induction axes with
  | nil => simp [pinAxes]
  | cons a axes ih => by_cases ha : a.name = name <;> simp [pinAxes, ha, ih]

theorem pinAxes_comm (hne : name ≠ name') (hold : ∃ a ∈ axes, a.name = name ∨ a.name = name') :
    pinAxes name' value' (pinAxes name value axes) =
      pinAxes name value (pinAxes name' value' axes) := by
  induction axes with
  | nil => simp at hold
  | cons a axes ih =>
    by_cases ha : a.name = name
    · have ha' : a.name ≠ name' := ha ▸ hne
      simp [pinAxes, ha, hne]
    by_cases ha' : a.name = name'
    · simp [pinAxes, ha', hne.symm]
    · have hrest : ∃ b ∈ axes, b.name = name ∨ b.name = name' := by simpa [ha, ha'] using hold
      simp [pinAxes, ha, ha', ih hrest]

theorem pinAxes_of_new (hnew : ∀ a ∈ axes, a.name ≠ name) :
    pinAxes name value axes = axes ++ [⟨name, [value]⟩] := by
  induction axes with
  | nil => rfl
  | cons a axes ih =>
    obtain ⟨ha, hrest⟩ := List.forall_mem_cons.mp hnew
    rw [pinAxes, if_neg ha, ih hrest, List.cons_append]

/-- What pinning does to a matrix, and what it leaves as it was. -/
structure PinLaws (m : Matrix) : Prop where
  wellFormed : WellFormed m.axes
  pinned (name : String) (value : AxisValue) : Pinned name value m.axes (m.pin name value).axes
  variants_ne_nil (name : String) (value : AxisValue) : (m.pin name value).variants ≠ []
  chosen (name : String) (value : AxisValue) : ∀ v ∈ (m.pin name value).variants,
    v.get? name = some value ∧ (v.entries.map Prod.fst).count name = 1
  /-- Pinning divides the number of variants by the number of values the axis had. -/
  size_mul {a : Axis} (ha : a ∈ m.axes) (value : AxisValue) (hfits : combinations m.axes < 2 ^ 64) :
    (m.pin a.name value).size * a.values.length = m.size
  size_eq {name : String} (hnew : ∀ a ∈ m.axes, a.name ≠ name) (value : AxisValue) :
    (m.pin name value).size = m.size
  pin_pin (name : String) (value value' : AxisValue) :
    (m.pin name value).pin name value' = m.pin name value'
  pin_comm {name name' : String} (hne : name ≠ name')
    (hold : ∃ a ∈ m.axes, a.name = name ∨ a.name = name') (value value' : AxisValue) :
    (m.pin name value).pin name' value' = (m.pin name' value').pin name value
  pin_new {name name' : String} (hne : name ≠ name')
    (hnew : ∀ a ∈ m.axes, a.name ≠ name ∧ a.name ≠ name') (value value' : AxisValue) :
    ((m.pin name value).pin name' value').axes =
      m.axes ++ [⟨name, [value]⟩, ⟨name', [value']⟩]

theorem pinning_laws (h : m.Arises) : m.PinLaws where
  wellFormed := h.wellFormed
  pinned := h.pinned
  variants_ne_nil name value := by
    have hpos := combinations_pos (h.pin name value).wellFormed.values
    rw [← length_variants] at hpos
    exact List.ne_nil_of_length_pos hpos
  chosen name value v hv := by
    have hpinned := h.pinned name value
    have hchooses := mem_variants.mp hv
    exact ⟨get?_of_pinned hpinned hchooses,
      count_of_pinned hpinned (h.pin name value).wellFormed hchooses⟩
  size_mul {a} ha value hfits := by
    have hmul := (h.pinned a.name value).combinations_mul ha
    have hvalues := List.length_pos_of_ne_nil (h.wellFormed.values a ha)
    have hle := hmul ▸ Nat.le_mul_of_pos_right (combinations (m.pin a.name value).axes) hvalues
    rw [size_eq, size_eq, Nat.mod_eq_of_lt (hle.trans_lt hfits), Nat.mod_eq_of_lt hfits, hmul]
  size_eq {name} hnew value := by
    rw [size_eq, size_eq, (h.pinned name value).combinations_eq hnew]
  pin_pin name value value' := congrArg Matrix.mk (pinAxes_pinAxes name value value' m.axes)
  pin_comm hne hold value value' := congrArg Matrix.mk (pinAxes_comm hne hold)
  pin_new {name name'} hne hnew value value' := by
    have hold : pinAxes name value m.axes = m.axes ++ [⟨name, [value]⟩] :=
      pinAxes_of_new fun a ha ↦ (hnew a ha).1
    have hnew' : ∀ a ∈ m.axes ++ [⟨name, [value]⟩], a.name ≠ name' :=
      List.forall_mem_append.mpr ⟨fun a ha ↦ (hnew a ha).2, by simpa using hne⟩
    rw [pin, pin, hold, pinAxes_of_new hnew', List.append_assoc, List.singleton_append]

def userMapped : Matrix := (default : Matrix).pin Axis.nameMap (.str "user")

/-- The axis of the mapping mode is new to the default axes, that of the debug output is not. -/
theorem userMapped_pinned :
    userMapped.Arises ∧ userMapped.size = 16 ∧
    (∀ v ∈ userMapped.variants, v.get? Axis.nameMap = some (.str "user")) ∧
    (userMapped.pin Axis.debug (.bool false)).size * 2 = userMapped.size ∧
    userMapped.pin Axis.debug (.bool false) =
      ((default : Matrix).pin Axis.debug (.bool false)).pin Axis.nameMap (.str "user") := by
  have harises : userMapped.Arises := Arises.byDefault.pin _ _
  have hdebug : ⟨Axis.debug, [.bool false, .bool true]⟩ ∈ userMapped.axes := by decide
  have hdefault := pinning_laws .byDefault
  exact ⟨harises, hdefault.size_eq (by decide) _, fun v hv ↦ (hdefault.chosen _ _ v hv).1,
    (pinning_laws harises).size_mul hdebug _ (by decide),
    hdefault.pin_comm (by decide) (by decide) _ _⟩

end Matrix

end MountSweep
