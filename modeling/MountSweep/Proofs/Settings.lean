import Mathlib.Data.List.Forall2
import MountSweep.Matrix

namespace MountSweep

section

variable {ε α β γ : Type}

theorem except_map_map (x : Except ε α) (f : α → β) (g : β → γ) :
    (x.map f).map g = x.map (g ∘ f) := by
  cases x <;> rfl

theorem bind_eq_map {x : Except ε α} {f : α → Except ε β} {g : α → β}
    (h : ∀ a, f a = .ok (g a)) : x >>= f = x.map g := by
  cases x with
  | error e => rfl
  | ok a => exact h a

theorem bind_eq_ok_iff {x : Except ε α} {f : α → Except ε β} {y : β} :
    x >>= f = .ok y ↔ ∃ a, x = .ok a ∧ f a = .ok y := by
  cases x <;> simp [bind, Except.bind]

theorem bind_eq_error_iff {x : Except ε α} {f : α → Except ε β} {e : ε} :
    x >>= f = .error e ↔ x = .error e ∨ ∃ a, x = .ok a ∧ f a = .error e := by
  cases x <;> simp [bind, Except.bind]

theorem map_eq_ok_iff {x : Except ε α} {f : α → β} {y : β} :
    x.map f = .ok y ↔ ∃ a, x = .ok a ∧ f a = y := by
  cases x <;> simp [Except.map]

theorem map_eq_error_iff {x : Except ε α} {f : α → β} {e : ε} :
    x.map f = .error e ↔ x = .error e := by
  cases x <;> simp [Except.map]

theorem mapM_eq_map {f : α → Except ε γ} {g : α → Except ε β} {h : β → γ}
    (hf : ∀ a, f a = (g a).map h) (xs : List α) : xs.mapM f = (xs.mapM g).map (List.map h) := by
  induction xs with
  | nil => rfl
  | cons x xs ih =>
    rw [List.mapM_cons, List.mapM_cons, hf, ih]
    cases g x with
    | error e => rfl
    | ok y => cases xs.mapM g <;> rfl

/-- A fold each step of which first reads an element is a fold over all that is read. -/
theorem foldlM_eq_map {f : γ → α → Except ε γ} {g : α → Except ε β} {h : γ → β → γ}
    (hf : ∀ c a, f c a = (g a).map (h c)) (c : γ) (xs : List α) :
    xs.foldlM f c = (xs.mapM g).map (List.foldl h c) := by
  induction xs generalizing c with
  | nil => rfl
  | cons x xs ih =>
    rw [List.foldlM_cons, List.mapM_cons, hf]
    cases g x with
    | error e => rfl
    | ok y =>
      refine (ih (h c y)).trans ?_
      cases xs.mapM g <;> rfl

theorem mapM_eq_ok_iff {f : α → Except ε β} {xs : List α} {ys : List β} :
    xs.mapM f = .ok ys ↔ List.Forall₂ (fun x y ↦ f x = .ok y) xs ys := by
  induction xs generalizing ys with
  | nil => cases ys <;> simp [pure, Except.pure]
  | cons x xs ih =>
    rw [List.mapM_cons, List.forall₂_cons_left_iff]
    cases hx : f x with
    | error e => simp [bind, Except.bind]
    | ok y =>
      cases hxs : xs.mapM f with
      | error e => simp [bind, Except.bind, ← ih, hxs]
      | ok rest =>
        simp only [bind, Except.bind, pure, Except.pure, ← ih, hxs, Except.ok.injEq]
        simp [eq_comm]

theorem mapM_eq_error_iff {f : α → Except ε β} {xs : List α} {e : ε} :
    xs.mapM f = .error e ↔
      ∃ before x after, xs = before ++ x :: after ∧ (∀ b ∈ before, ∃ y, f b = .ok y) ∧
        f x = .error e := by
  induction xs with
  | nil => simp [pure, Except.pure]
  | cons x xs ih =>
    rw [List.mapM_cons]
    cases hx : f x with
    | error e' =>
      constructor
      · intro h
        cases h
        exact ⟨[], x, xs, rfl, nofun, hx⟩
      · rintro ⟨before, y, after, heq, hbefore, hy⟩
        cases before with
        | nil =>
          cases heq
          cases hx.symm.trans hy
          rfl
        | cons b before =>
          cases heq
          obtain ⟨y', hy'⟩ := hbefore x List.mem_cons_self
          cases hx.symm.trans hy'
    | ok y =>
      have hrest : ((xs.mapM f >>= fun ys ↦ pure (y :: ys)) = .error e) ↔
          xs.mapM f = .error e := by
        cases xs.mapM f <;> simp [bind, Except.bind, pure, Except.pure]
      refine hrest.trans (ih.trans ?_)
      constructor
      · rintro ⟨before, z, after, rfl, hbefore, hz⟩
        exact ⟨x :: before, z, after, rfl, List.forall_mem_cons.mpr ⟨⟨y, hx⟩, hbefore⟩, hz⟩
      · rintro ⟨before, z, after, heq, hbefore, hz⟩
        cases before with
        | nil =>
          cases heq
          cases hx.symm.trans hz
        | cons b before =>
          cases heq
          exact ⟨before, z, after, rfl, fun b hb ↦ hbefore b (List.mem_cons_of_mem _ hb), hz⟩

theorem exists_mapM_eq_ok {f : α → Except ε β} {xs : List α} (h : ∀ x ∈ xs, ∃ y, f x = .ok y) :
    ∃ ys, xs.mapM f = .ok ys := by
  induction xs with
  | nil => exact ⟨[], rfl⟩
  | cons x xs ih =>
    obtain ⟨y, hy⟩ := h x List.mem_cons_self
    obtain ⟨ys, hys⟩ := ih fun x hx ↦ h x (List.mem_cons_of_mem _ hx)
    exact ⟨y :: ys, mapM_eq_ok_iff.mpr (.cons hy (mapM_eq_ok_iff.mp hys))⟩

theorem exists_of_forall₂_left {R : α → β → Prop} {xs : List α} {ys : List β}
    (h : List.Forall₂ R xs ys) {x : α} (hx : x ∈ xs) : ∃ y ∈ ys, R x y := by
  induction h with
  | nil => cases hx
  | cons hr _ ih =>
    rcases List.mem_cons.mp hx with rfl | hx
    · exact ⟨_, List.mem_cons_self, hr⟩
    · obtain ⟨y, hy, hxy⟩ := ih hx
      exact ⟨y, List.mem_cons_of_mem _ hy, hxy⟩

theorem exists_of_forall₂_right {R : α → β → Prop} {xs : List α} {ys : List β}
    (h : List.Forall₂ R xs ys) {y : β} (hy : y ∈ ys) : ∃ x ∈ xs, R x y :=
  exists_of_forall₂_left (R := flip R) h.flip hy

theorem forM_eq_ok_iff {f : α → Except ε Unit} {xs : List α} :
    xs.forM f = .ok () ↔ ∀ x ∈ xs, f x = .ok () := by
  induction xs with
  | nil => simp [List.forM, pure, Except.pure]
  | cons x xs ih =>
    rw [List.forall_mem_cons, ← ih, List.forM]
    cases hx : f x with
    | error e => simp [bind, Except.bind]
    | ok u => simp [bind, Except.bind]

theorem forM_eq_map (f : α → Except ε Unit) (xs : List α) :
    xs.forM f = (xs.mapM f).map fun _ ↦ () := by
  induction xs with
  | nil => rfl
  | cons x xs ih =>
    rw [List.mapM_cons, List.forM, ih]
    cases f x with
    | error e => rfl
    | ok u => cases xs.mapM f <;> rfl

theorem forM_eq_error_iff {f : α → Except ε Unit} {xs : List α} {e : ε} :
    xs.forM f = .error e ↔
      ∃ before x after, xs = before ++ x :: after ∧ (∀ b ∈ before, f b = .ok ()) ∧
        f x = .error e := by
  have hunit (b : α) : (∃ u, f b = .ok u) ↔ f b = .ok () :=
    ⟨fun ⟨(), h⟩ ↦ h, fun h ↦ ⟨(), h⟩⟩
  rw [forM_eq_map, map_eq_error_iff, mapM_eq_error_iff]
  simp only [hunit]

theorem forM_flatMap {f : β → Except ε Unit} {g : α → List β} {xs : List α} :
    (xs.flatMap g).forM f = xs.forM fun x ↦ (g x).forM f := by
  induction xs with
  | nil => rfl
  | cons x xs ih =>
    simp only [List.flatMap_cons, List.forM_eq_forM, List.forM_append, List.forM_cons] at ih ⊢
    rw [ih]

theorem eq_of_toString_eq {m n : ℕ} (h : toString m = toString n) : m = n := by
  rw [Nat.toString_eq_ofList_toDigits, Nat.toString_eq_ofList_toDigits, String.ofList_inj] at h
  calc
    m = Nat.ofDigitChars 10 (Nat.toDigits 10 m) 0 := Nat.ofDigitChars_ten_toDigits.symm
    _ = Nat.ofDigitChars 10 (Nat.toDigits 10 n) 0 := by rw [h]
    _ = n := Nat.ofDigitChars_ten_toDigits

end

inductive Setting
  | debug (b : Bool)
  | cacheTimeout (n : UInt64)
  | syncReaddir (b : Bool)
  | multiconn (b : Bool)
  | nameMap (mode : NameMapMode)
  deriving DecidableEq, Repr

namespace Setting

def ofValue (axis : String) (value : AxisValue) : Except ConfigError Setting :=
  if axis = Axis.debug then (Axis.expectBool axis value).map debug
  else if axis = Axis.cacheTimeout then (Axis.expectInt axis value).map cacheTimeout
  else if axis = Axis.syncReaddir then (Axis.expectBool axis value).map syncReaddir
  else if axis = Axis.multiconn then (Axis.expectBool axis value).map multiconn
  else if axis = Axis.nameMap then (Axis.expectNameMap value).map nameMap
  else .error (.unknownAxis axis)

/-- The options that a setting adds to the command line; mapping files are looked for under
`conf`. -/
def options (conf : Path) : Setting → List String
  | debug b => if b then ["sshfs_debug"] else []
  | cacheTimeout n =>
    if n = 0 then ["dir_cache=no"]
    else ["dcache_timeout=" ++ toString n.toNat, "dir_cache=yes"]
  | syncReaddir b => if b then ["sync_readdir"] else []
  | multiconn b => if b then ["max_conns=" ++ toString Axis.maxConnections] else []
  | nameMap .none => []
  | nameMap .user => ["namemap=user"]
  | nameMap .file | nameMap .fileEmpty =>
    ["namemap=file", "unamefile=" ++ (conf.joinName NameMapMode.userFile).display,
      "gnamefile=" ++ (conf.joinName NameMapMode.groupFile).display]

def apply (o : ServiceOptions) : Setting → ServiceOptions
  | debug b => { o with debug := b }
  | cacheTimeout n => { o with cacheTimeout := n }
  | syncReaddir b => { o with syncReaddir := b }
  | multiconn b => { o with multiconn := b }
  | nameMap mode => { o with nameMap := mode }

def entry : Setting → String × AxisValue
  | debug b => (Axis.debug, .bool b)
  | cacheTimeout n => (Axis.cacheTimeout, .int n)
  | syncReaddir b => (Axis.syncReaddir, .bool b)
  | multiconn b => (Axis.multiconn, .bool b)
  | nameMap mode => (Axis.nameMap, .str mode.name)

def axis (x : Setting) : String := x.entry.1

variable {axis : String} {value : AxisValue} {mode : NameMapMode}

theorem set_eq (o : ServiceOptions) (axis : String) (value : AxisValue) :
    o.set axis value = (ofValue axis value).map (apply o) := by
  simp only [ServiceOptions.set, ofValue, apply_ite (Except.map (apply o)), except_map_map]
  rfl

theorem args_eq (axis : String) (value : AxisValue) (conf : Path) :
    Axis.args axis value conf =
      (ofValue axis value).map fun x ↦ (x.options conf).flatMap Axis.option := by
  rw [Axis.args, ofValue]
  by_cases hdebug : axis = Axis.debug
  · rw [if_pos hdebug, if_pos hdebug, except_map_map]
    exact bind_eq_map fun b ↦ by cases b <;> rfl
  by_cases hsync : axis = Axis.syncReaddir
  · -- The two views ask for this axis at different places.
    have hcache : axis ≠ Axis.cacheTimeout := by simp [hsync, Axis.syncReaddir, Axis.cacheTimeout]
    rw [if_neg hdebug, if_neg hdebug, if_pos hsync, if_neg hcache, if_pos hsync, except_map_map]
    exact bind_eq_map fun b ↦ by cases b <;> rfl
  rw [if_neg hdebug, if_neg hdebug, if_neg hsync, if_neg hsync]
  by_cases hcache : axis = Axis.cacheTimeout
  · rw [if_pos hcache, if_pos hcache, except_map_map]
    refine bind_eq_map fun n ↦ ?_
    by_cases hn : n = 0
    · simp only [hn, Function.comp, options]
      rfl
    · simp only [hn, Function.comp, options]
      rfl
  by_cases hmulti : axis = Axis.multiconn
  · rw [if_neg hcache, if_neg hcache, if_pos hmulti, if_pos hmulti, except_map_map]
    exact bind_eq_map fun b ↦ by cases b <;> rfl
  by_cases hmap : axis = Axis.nameMap
  · rw [if_neg hcache, if_neg hcache, if_neg hmulti, if_neg hmulti, if_pos hmap, if_pos hmap,
      except_map_map]
    exact bind_eq_map fun mode ↦ by cases mode <;> rfl
  · rw [if_neg hcache, if_neg hcache, if_neg hmulti, if_neg hmulti, if_neg hmap, if_neg hmap]
    rfl

/-- What is wrong with an entry that stands for no setting. -/
inductive Offends : String × AxisValue → ConfigError → Prop
  | unknown {axis : String} {value : AxisValue}
      (h : axis ∉ [Axis.debug, Axis.cacheTimeout, Axis.syncReaddir, Axis.multiconn, Axis.nameMap]) :
      Offends (axis, value) (.unknownAxis axis)
  | notBoolean {axis : String} {value : AxisValue}
      (ha : axis ∈ [Axis.debug, Axis.syncReaddir, Axis.multiconn]) (h : ∀ b, value ≠ .bool b) :
      Offends (axis, value) (.invalidValue axis value.display "a boolean")
  | notNumber {value : AxisValue} (h : ∀ n, value ≠ .int n) :
      Offends (Axis.cacheTimeout, value)
        (.invalidValue Axis.cacheTimeout value.display "a non-negative integer")
  | notMode {value : AxisValue} (h : ∀ m : NameMapMode, value ≠ .str m.name) :
      Offends (Axis.nameMap, value)
        (.invalidValue Axis.nameMap value.display "one of none, user, file, file_empty")

theorem expectBool_eq_ok_iff {b : Bool} : Axis.expectBool axis value = .ok b ↔ value = .bool b := by
  cases value <;> simp [Axis.expectBool]

theorem expectBool_eq_error_iff {e : ConfigError} :
    Axis.expectBool axis value = .error e ↔
      (∀ b, value ≠ .bool b) ∧ e = .invalidValue axis value.display "a boolean" := by
  cases value <;> simp [Axis.expectBool, eq_comm]

theorem expectInt_eq_ok_iff {n : UInt64} : Axis.expectInt axis value = .ok n ↔ value = .int n := by
  cases value <;> simp [Axis.expectInt]

theorem expectInt_eq_error_iff {e : ConfigError} :
    Axis.expectInt axis value = .error e ↔
      (∀ n, value ≠ .int n) ∧ e = .invalidValue axis value.display "a non-negative integer" := by
  cases value <;> simp [Axis.expectInt, eq_comm]

theorem ofName?_cases (s : String) :
    (∃ m : NameMapMode, s = m.name) ∨
      (∀ m : NameMapMode, s ≠ m.name) ∧
        NameMapMode.ofName? s = .error (.invalidValue "namemap" s NameMapMode.expectation) := by
  cases h : NameMapMode.all.find? (·.name = s) with
  | some m =>
    have hm : m.name = s := by simpa using List.find?_some h
    exact .inl ⟨m, hm.symm⟩
  | none =>
    refine .inr ⟨?_, by rw [NameMapMode.ofName?, h]⟩
    rintro m rfl
    have hmem : m ∈ NameMapMode.all := by cases m <;> simp [NameMapMode.all]
    simpa using List.find?_eq_none.mp h m hmem

theorem expectNameMap_cases (value : AxisValue) :
    (∃ m : NameMapMode, value = .str m.name ∧ Axis.expectNameMap value = .ok m) ∨
      (∀ m : NameMapMode, value ≠ .str m.name) ∧
        Axis.expectNameMap value =
          .error (.invalidValue Axis.nameMap value.display
            "one of none, user, file, file_empty") := by
  cases value with
  | bool b => exact .inr ⟨nofun, rfl⟩
  | int n => exact .inr ⟨nofun, rfl⟩
  | str s =>
    rcases ofName?_cases s with ⟨m, rfl⟩ | ⟨hne, herr⟩
    · exact .inl ⟨m, rfl, NameMapMode.ofName?_name m⟩
    · exact .inr ⟨fun m hm ↦ hne m (AxisValue.str.inj hm), herr⟩

theorem expectNameMap_eq_ok_iff : Axis.expectNameMap value = .ok mode ↔ value = .str mode.name := by
  constructor
  · intro h
    rcases expectNameMap_cases value with ⟨m, rfl, hm⟩ | ⟨-, herr⟩
    · cases hm.symm.trans h
      rfl
    · cases herr.symm.trans h
  · rintro rfl
    exact NameMapMode.ofName?_name mode

theorem expectNameMap_eq_error_iff {e : ConfigError} :
    Axis.expectNameMap value = .error e ↔
      (∀ m : NameMapMode, value ≠ .str m.name) ∧
        e = .invalidValue Axis.nameMap value.display "one of none, user, file, file_empty" := by
  rcases expectNameMap_cases value with ⟨m, rfl, hm⟩ | ⟨hne, herr⟩
  · constructor
    · intro h
      cases hm.symm.trans h
    · rintro ⟨hne, -⟩
      exact absurd rfl (hne m)
  · simp [herr, hne, eq_comm]

theorem ofValue_eq_ok_iff {x : Setting} : ofValue axis value = .ok x ↔ (axis, value) = x.entry := by
  constructor
  · intro h
    unfold ofValue at h
    split_ifs at h with hdebug hcache hsync hmulti hmap
    · obtain ⟨b, hb, rfl⟩ := map_eq_ok_iff.mp h
      rw [hdebug, expectBool_eq_ok_iff.mp hb, entry]
    · obtain ⟨n, hn, rfl⟩ := map_eq_ok_iff.mp h
      rw [hcache, expectInt_eq_ok_iff.mp hn, entry]
    · obtain ⟨b, hb, rfl⟩ := map_eq_ok_iff.mp h
      rw [hsync, expectBool_eq_ok_iff.mp hb, entry]
    · obtain ⟨b, hb, rfl⟩ := map_eq_ok_iff.mp h
      rw [hmulti, expectBool_eq_ok_iff.mp hb, entry]
    · obtain ⟨m, hm, rfl⟩ := map_eq_ok_iff.mp h
      rw [hmap, expectNameMap_eq_ok_iff.mp hm, entry]
  · intro h
    cases x with
    | nameMap m =>
      cases h
      exact map_eq_ok_iff.mpr ⟨m, NameMapMode.ofName?_name m, rfl⟩
    | _ =>
      cases h
      rfl

theorem ofValue_eq_error_iff {e : ConfigError} :
    ofValue axis value = .error e ↔ Offends (axis, value) e := by
  constructor
  · intro h
    unfold ofValue at h
    split_ifs at h with hdebug hcache hsync hmulti hmap
    · obtain ⟨hb, rfl⟩ := expectBool_eq_error_iff.mp (map_eq_error_iff.mp h)
      exact .notBoolean (by simp [hdebug]) hb
    · obtain ⟨hn, rfl⟩ := expectInt_eq_error_iff.mp (map_eq_error_iff.mp h)
      rw [hcache]
      exact .notNumber hn
    · obtain ⟨hb, rfl⟩ := expectBool_eq_error_iff.mp (map_eq_error_iff.mp h)
      exact .notBoolean (by simp [hsync]) hb
    · obtain ⟨hb, rfl⟩ := expectBool_eq_error_iff.mp (map_eq_error_iff.mp h)
      exact .notBoolean (by simp [hmulti]) hb
    · obtain ⟨hm, rfl⟩ := expectNameMap_eq_error_iff.mp (map_eq_error_iff.mp h)
      rw [hmap]
      exact .notMode hm
    · cases h
      exact .unknown (by simp [hdebug, hcache, hsync, hmulti, hmap])
  · intro h
    cases h with
    | unknown h =>
      simp only [List.mem_cons, List.not_mem_nil, or_false, not_or] at h
      simp [ofValue, h]
    | notBoolean ha h =>
      simp only [List.mem_cons, List.not_mem_nil, or_false] at ha
      rcases ha with rfl | rfl | rfl <;>
        exact map_eq_error_iff.mpr (expectBool_eq_error_iff.mpr ⟨h, rfl⟩)
    | notNumber h => exact map_eq_error_iff.mpr (expectInt_eq_error_iff.mpr ⟨h, rfl⟩)
    | notMode h => exact map_eq_error_iff.mpr (expectNameMap_eq_error_iff.mpr ⟨h, rfl⟩)

theorem not_offends (x : Setting) (e : ConfigError) : ¬ Offends x.entry e := by
  intro h
  have hok : ofValue x.entry.1 x.entry.2 = .ok x := ofValue_eq_ok_iff.mpr rfl
  have herror : ofValue x.entry.1 x.entry.2 = .error e := ofValue_eq_error_iff.mpr h
  cases hok.symm.trans herror

theorem entry_injective : Function.Injective entry := by
  intro x y h
  have hx : ofValue x.entry.1 x.entry.2 = .ok x := ofValue_eq_ok_iff.mpr rfl
  have hy : ofValue x.entry.1 x.entry.2 = .ok y := ofValue_eq_ok_iff.mpr h
  exact Except.ok.inj (hx.symm.trans hy)

theorem ofValue_nameMap (mode : NameMapMode) :
    ofValue Axis.nameMap (.str mode.name) = .ok (nameMap mode) := by
  cases mode <;> rfl

theorem eq_nameMap_of_ofValue (h : ofValue axis value = .ok (nameMap mode)) :
    axis = Axis.nameMap := by
  by_contra hmap
  rw [ofValue, if_neg hmap] at h
  repeat
    split at h
    · obtain ⟨_, -, h⟩ := map_eq_ok_iff.mp h
      cases h
  cases h

theorem nameMap_apply_of_ne {o : ServiceOptions} {x : Setting} (h : ∀ m, x ≠ nameMap m) :
    (apply o x).nameMap = o.nameMap := by
  cases x with
  | nameMap m => exact absurd rfl (h m)
  | _ => rfl

theorem nameMap_foldl {xs : List Setting} {o : ServiceOptions}
    (hall : ∀ m, nameMap m ∈ xs → m = mode) (hmem : o.nameMap = mode ∨ nameMap mode ∈ xs) :
    (xs.foldl apply o).nameMap = mode := by
  -- The mode is in place already, or one of the settings that are still to come puts it there.
  induction xs generalizing o with
  | nil => simpa using hmem
  | cons x xs ih =>
    refine ih (fun m hm ↦ hall m (List.mem_cons_of_mem _ hm)) ?_
    by_cases hx : ∃ m, x = nameMap m
    · obtain ⟨m, rfl⟩ := hx
      exact .inl (hall m List.mem_cons_self)
    · have hx : ∀ m, x ≠ nameMap m := fun m h ↦ hx ⟨m, h⟩
      rw [nameMap_apply_of_ne hx]
      refine hmem.imp_right fun hmem ↦ ?_
      exact (List.mem_cons.mp hmem).resolve_left (hx mode).symm

end Setting

namespace Variant

/-- The settings that the entries of a variant stand for, if all are understood. -/
def settings (v : Variant) : Except ConfigError (List Setting) :=
  v.entries.mapM fun e ↦ Setting.ofValue e.1 e.2

/-- The first entry of a variant that stands for no setting, and what is wrong with it. -/
def FirstOffence (v : Variant) (e : ConfigError) : Prop :=
  ∃ before entry after, v.entries = before ++ entry :: after ∧
    (∀ b ∈ before, ∃ x : Setting, b = x.entry) ∧ Setting.Offends entry e

variable (v : Variant)

theorem settings_eq_ok_iff {xs : List Setting} :
    v.settings = .ok xs ↔ v.entries = xs.map Setting.entry := by
  rw [settings, mapM_eq_ok_iff, ← List.forall₂_eq_eq_eq, List.forall₂_map_right_iff]
  simp only [Setting.ofValue_eq_ok_iff]

theorem settings_eq_error_iff {e : ConfigError} :
    v.settings = .error e ↔ v.FirstOffence e := by
  unfold settings FirstOffence
  simp only [mapM_eq_error_iff, Setting.ofValue_eq_ok_iff, Setting.ofValue_eq_error_iff]

theorem args_eq_settings (conf : Path) :
    v.args conf = v.settings.map fun xs ↦ (xs.flatMap (·.options conf)).flatMap Axis.option := by
  have h := mapM_eq_map (fun (e : String × AxisValue) ↦ Setting.args_eq e.1 e.2 conf) v.entries
  refine (congrArg (Except.map List.flatten) h).trans ?_
  rw [except_map_map]
  congr 1
  funext xs
  rw [List.flatMap_assoc]
  rfl

theorem options_eq_settings : v.options = v.settings.map (List.foldl Setting.apply {}) :=
  foldlM_eq_map (fun o (e : String × AxisValue) ↦ Setting.set_eq o e.1 e.2) _ _

theorem options_of_settings {v : Variant} {xs : List Setting} (h : v.settings = .ok xs) :
    v.options = .ok (xs.foldl Setting.apply {}) := by
  rw [options_eq_settings, h]
  rfl

end Variant

end MountSweep
