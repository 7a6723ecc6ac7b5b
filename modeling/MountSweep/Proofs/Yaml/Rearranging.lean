import MountSweep.Proofs.Yaml.Reading

namespace MountSweep.Yaml

variable {α : Type} {d d' : Document} {n n' : Node} {P R : Node → Node → Prop}

def SameScalar (d d' : Document) : Node → Node → Prop :=
  Through d d' fun m m' ↦ ∃ tag value style, m = .scalar tag value style ∧ m' = m

/-- Sequences whose items are related, one by one. -/
inductive SameItems (R : Node → Node → Prop) : Node → Node → Prop
  | absent (tag : Option Bytes) : SameItems R (.scalar tag [] .plain) (.scalar tag [] .plain)
  | sequence (tag : Option Bytes) {ms ms' : List Node} (h : List.Forall₂ R ms ms') :
      SameItems R (.sequence tag ms) (.sequence tag ms')

def SameList (d d' : Document) (R : Node → Node → Prop) : Node → Node → Prop :=
  Through d d' (SameItems R)

/-- Mappings with the same keys and values, one by one. -/
inductive SameEntries (d d' : Document) : Node → Node → Prop
  | absent (tag : Option Bytes) : SameEntries d d' (.scalar tag [] .plain) (.scalar tag [] .plain)
  | mapping (tag : Option Bytes) {es es' : List (Node × Node)}
      (h : List.Forall₂ (fun e e' ↦ SameScalar d d' e.1 e'.1 ∧ SameScalar d d' e.2 e'.2) es es') :
      SameEntries d d' (.mapping tag es) (.mapping tag es')

def SameTable (d d' : Document) : Node → Node → Prop := Through d d' (SameEntries d d')

/-- The names of fields that are known, and how the values of each may differ. -/
abbrev Keys := List (String × (Node → Node → Prop))

/-- Entries with related values under the names that are known; there may be further entries under
other names, and these may have other values. -/
inductive Extends (d d' : Document) (keys : Keys) :
    List (Node × Node) → List (Node × Node) → Prop
  | nil : Extends d d' keys [] []
  | known {key key' value value' : Node} {es es' : List (Node × Node)} {name : String}
      {R : Node → Node → Prop} (hkey : SameScalar d d' key key') (hname : d.text? key = some name)
      (hR : keys.lookup name = some R) (hvalue : R value value') (h : Extends d d' keys es es') :
      Extends d d' keys ((key, value) :: es) ((key', value') :: es')
  | unknown {key key' value value' : Node} {es es' : List (Node × Node)} {name : String}
      (hkey : SameScalar d d' key key') (hname : d.text? key = some name)
      (hR : keys.lookup name = none) (hvalue : value.eventCount ≤ value'.eventCount)
      (h : Extends d d' keys es es') :
      Extends d d' keys ((key, value) :: es) ((key', value') :: es')
  | added {tag : Option Bytes} {name : String} {style : ScalarStyle} {value : Node}
      {es es' : List (Node × Node)} (hR : keys.lookup name = none) (h : Extends d d' keys es es') :
      Extends d d' keys es ((.scalar tag name.toList style, value) :: es')

/-- The fields of one mapping extended and brought into another order. -/
inductive SameFields (d d' : Document) (keys : Keys) : Node → Node → Prop
  | absent (tag : Option Bytes) :
      SameFields d d' keys (.scalar tag [] .plain) (.scalar tag [] .plain)
  | filled (tag tag' : Option Bytes) {es₁ es' : List (Node × Node)}
      (h : Extends d d' keys [] es₁) (hperm : es₁.Perm es') :
      SameFields d d' keys (.scalar tag [] .plain) (.mapping tag' es')
  | mapping (tag : Option Bytes) {es es₁ es' : List (Node × Node)}
      (h : Extends d d' keys es es₁) (hperm : es₁.Perm es') :
      SameFields d d' keys (.mapping tag es) (.mapping tag es')

def SameStruct (d d' : Document) (keys : Keys) : Node → Node → Prop :=
  Through d d' (SameFields d d' keys)

def Grows (R : Node → Node → Prop) : Prop := ∀ n n', R n n' → n.eventCount ≤ n'.eventCount

theorem SameScalar.follows (h : SameScalar d d' n n') : Follows d d' Eq n.target n'.target := by
  refine (target_follows h).mono fun m m' hm ↦ ?_
  obtain ⟨tag, value, style, -, rfl⟩ := hm
  rfl

theorem SameScalar.text?_eq (h : SameScalar d d' n n') : d'.text? n' = d.text? n := by
  obtain ⟨m, m', hm, hm', -, tag, value, style, rfl, rfl⟩ := h
  rw [Document.text?, Document.text?, hm, hm']

theorem SameScalar.jumps_le (h : SameScalar d d' n n') : n'.jumps ≤ n.jumps := by
  obtain ⟨m, m', -, -, hjumps, -⟩ := h
  exact hjumps

theorem SameList.follows (h : SameList d d' R n n') :
    Follows d d' (List.Forall₂ R) n.items n'.items :=
  (target_follows h).bind fun m m' hm ↦ by
    cases hm with
    | @absent tag => exact .pure .nil
    | sequence tag hms => exact .pure hms

theorem SameTable.follows (h : SameTable d d' n n') :
    Follows d d' (List.Forall₂ fun f f' ↦ f.1 = f'.1 ∧ SameScalar d d' f.2 f'.2) n.fields
      n'.fields :=
  (target_follows h).bind fun m m' hm ↦ by
    cases hm with
    | absent tag => exact .pure .nil
    | mapping tag hes =>
      refine .mapM hes fun e e' he ↦ ?_
      exact (text_follows he.1.follows).bind fun s _ hs ↦ .pure ⟨hs, he.2⟩

namespace Extends

variable {keys : Keys} {es es' : List (Node × Node)}

theorem jumps_le (h : Extends d d' keys es es') :
    (es'.map fun e ↦ e.1.jumps).sum ≤ (es.map fun e ↦ e.1.jumps).sum := by
  induction h with
  | nil => exact Nat.le_refl _
  | known hkey _ _ _ _ ih | unknown hkey _ _ _ _ ih =>
    simp only [List.map_cons, List.sum_cons]
    exact Nat.add_le_add hkey.jumps_le ih
  | added _ _ ih => simpa [Node.jumps] using ih

theorem exists_text? (h : Extends d d' keys es es') :
    ∀ e ∈ es', ∃ s, d'.text? e.1 = some s := by
  induction h with
  | nil => nofun
  | @known _ _ _ _ _ _ name _ hkey hname _ _ _ ih | @unknown _ _ _ _ _ _ name hkey hname _ _ _ ih =>
    exact List.forall_mem_cons.mpr ⟨⟨name, hkey.text?_eq.trans hname⟩, ih⟩
  | @added _ name _ _ _ _ _ _ ih =>
    exact List.forall_mem_cons.mpr ⟨⟨_, rfl⟩, ih⟩

theorem valuesIn (h : Extends d d' keys es es') {name : String} (hR : keys.lookup name = some R) :
    List.Forall₂ R (d.valuesIn es name) (d'.valuesIn es' name) := by
  induction h with
  | nil => exact .nil
  | @known _ _ _ _ _ _ name' R' hkey hname hR' hvalue _ ih =>
    simp only [Document.valuesIn, List.filter_cons, hkey.text?_eq, hname, Option.some.injEq] at ih ⊢
    by_cases he : name' = name
    · cases he
      cases hR.symm.trans hR'
      simp only [decide_true, if_true, List.map_cons]
      exact .cons hvalue ih
    · simpa [he] using ih
  | @unknown _ _ _ _ _ _ name' hkey hname hR' _ _ ih =>
    have he : name' ≠ name := fun he ↦ by simp [← he, hR'] at hR
    simpa [Document.valuesIn, List.filter_cons, hkey.text?_eq, hname, he] using ih
  | @added _ name' _ _ _ _ hR' _ ih =>
    have he : name' ≠ name := fun he ↦ by simp [← he, hR'] at hR
    simpa [Document.valuesIn, List.filter_cons, Document.text?, Document.seen?, he] using ih

end Extends

def Agree (keys : Keys) (fs fs' : List (String × Node)) : Prop :=
  ∀ name R, keys.lookup name = some R →
    ∃ ms, List.Forall₂ R (valuesOf fs name) ms ∧ ms.Perm (valuesOf fs' name)

theorem Extends.follows {keys : Keys} {es es₁ es' : List (Node × Node)}
    (h : Extends d d' keys es es₁) (hperm : es₁.Perm es') :
    Follows d d' (Agree keys)
      (es.mapM fun (key, value) ↦ do return (← key.text, value))
      (es'.mapM fun (key, value) ↦ do return (← key.text, value)) := by
  intro left left₁ left' fs hfs hle
  obtain ⟨htexts, rfl⟩ := keys_runOn.mp hfs
  have hjumps : (es'.map fun e ↦ e.1.jumps).sum ≤ (es.map fun e ↦ e.1.jumps).sum := by
    rw [← (hperm.map _).sum_nat]
    exact h.jumps_le
  have hkeys : es'.map (fun e ↦ (d'.text? e.1, e.2)) =
      (es'.map fun e ↦ ((d'.text? e.1).getD "", e.2)).map fun f ↦ (some f.1, f.2) := by
    rw [List.map_map]
    refine List.map_congr_left fun e he ↦ ?_
    obtain ⟨s, hs⟩ := h.exists_text? e (hperm.mem_iff.mpr he)
    simp [hs]
  refine ⟨Nat.le_add_right _ _, _, left' - (es'.map fun e ↦ e.1.jumps).sum,
    keys_runOn.mpr ⟨hkeys, by omega⟩, fun name R hR ↦ ⟨d'.valuesIn es₁ name, ?_, ?_⟩, by omega⟩
  · rw [valuesOf_eq htexts]
    exact h.valuesIn hR
  · rw [valuesOf_eq hkeys]
    exact (hperm.filter _).map _

theorem SameStruct.follows {keys : Keys} (h : SameStruct d d' keys n n') :
    Follows d d' (Agree keys) n.fields n'.fields :=
  (target_follows h).bind fun m m' hm ↦ by
    cases hm with
    | absent tag => exact .pure fun name R _ ↦ ⟨[], .nil, .refl _⟩
    | filled tag tag' h hperm => exact h.follows hperm
    | mapping tag h hperm => exact h.follows hperm

section

variable {r : Node → Decode α} {x : α}

theorem sameScalar_of_text? {s : String} (h : d.text? n = some s) : SameScalar d d n n := by
  unfold Document.text? at h
  split at h
  · next tag value style hseen =>
    exact ⟨_, _, hseen, hseen, Nat.le_refl _, tag, value, style, rfl, rfl⟩
  · cases h

theorem Extends.refl {keys : Keys} {es : List (Node × Node)}
    (hkeys : ∀ e ∈ es, ∃ s, d.text? e.1 = some s)
    (h : ∀ k ∈ keys, ∀ m ∈ d.valuesIn es k.1, k.2 m m) : Extends d d keys es es := by
  induction es with
  | nil => exact .nil
  | cons e es ih =>
    obtain ⟨⟨name, hname⟩, hkeys⟩ := List.forall_mem_cons.mp hkeys
    have hrest : Extends d d keys es es := ih hkeys fun k hk m hm ↦ by
      refine h k hk m ?_
      simp only [Document.valuesIn, List.filter_cons] at hm ⊢
      split
      · exact List.mem_cons_of_mem _ hm
      · exact hm
    have hkey := sameScalar_of_text? hname
    cases hR : keys.lookup name with
    | none => exact .unknown hkey hname hR (Nat.le_refl _) hrest
    | some R =>
      obtain ⟨before, after, hmem, -⟩ := List.lookup_eq_some_iff.mp hR
      refine .known hkey hname hR (h (name, R) (hmem ▸ List.mem_append_cons_self) e.2 ?_) hrest
      simp [Document.valuesIn, hname]

end

end MountSweep.Yaml
