import Mathlib.Algebra.BigOperators.Group.List.Basic
import Mathlib.Algebra.Order.BigOperators.Group.List
import Mathlib.Data.List.Lex
import MountSweep.Proofs.Validation

namespace MountSweep

namespace Matrix

variable {axes rest : List Axis} {a : Axis} {i j : ℕ} {ks : List ℕ}

def combinations (axes : List Axis) : ℕ := (axes.map fun a ↦ a.values.length).prod

def positions (axes : List Axis) (i : ℕ) : List ℕ :=
  axes.mapIdx fun j a ↦ i / combinations (axes.drop (j + 1)) % a.values.length

def Admits (axes : List Axis) (ks : List ℕ) : Prop :=
  List.Forall₂ (fun a k ↦ k < a.values.length) axes ks

def index : List Axis → List ℕ → ℕ
  | _ :: rest, k :: ks => k * combinations rest + index rest ks
  | _, _ => 0

@[simp] theorem combinations_nil : combinations [] = 1 := rfl

@[simp] theorem combinations_cons :
    combinations (a :: rest) = a.values.length * combinations rest := by
  simp [combinations]

@[simp] theorem positions_cons : positions (a :: rest) i =
    i / combinations rest % a.values.length :: positions rest i := by
  simp [positions, List.mapIdx_cons]

theorem positions_mod : positions axes (i % combinations axes) = positions axes i := by
  induction axes generalizing i with
  | nil => rfl
  | cons a rest ih =>
    have hhead : i % (a.values.length * combinations rest) / combinations rest %
        a.values.length = i / combinations rest % a.values.length := by
      rw [Nat.mod_mul_left_div_self, Nat.mod_mod]
    have hdvd : combinations rest ∣ a.values.length * combinations rest := Nat.dvd_mul_left _ _
    have htail := ih (i := i % (a.values.length * combinations rest))
    rw [Nat.mod_mod_of_dvd _ hdvd, ih] at htail
    rw [combinations_cons, positions_cons, positions_cons, hhead, ← htail]

theorem combinations_pos_of_lt (hi : i < combinations (a :: rest)) : 0 < combinations rest := by
  rw [combinations_cons] at hi
  exact Nat.pos_of_mul_pos_left (Nat.zero_lt_of_lt hi)

theorem admits_positions (hi : i < combinations axes) : Admits axes (positions axes i) := by
  induction axes generalizing i with
  | nil => exact .nil
  | cons a rest ih =>
    have hrest := combinations_pos_of_lt hi
    rw [combinations_cons] at hi
    have hvalues : 0 < a.values.length := Nat.pos_of_mul_pos_right (Nat.zero_lt_of_lt hi)
    rw [positions_cons, ← positions_mod]
    exact .cons (Nat.mod_lt _ hvalues) (ih (Nat.mod_lt _ hrest))

theorem index_lt (h : Admits axes ks) : index axes ks < combinations axes := by
  induction h with
  | nil => exact Nat.one_pos
  | @cons a k rest ks hk _ ih =>
    calc k * combinations rest + index rest ks
        < k * combinations rest + combinations rest := by omega
      _ = (k + 1) * combinations rest := by rw [Nat.succ_mul]
      _ ≤ a.values.length * combinations rest := Nat.mul_le_mul_right _ hk
      _ = combinations (a :: rest) := combinations_cons.symm

theorem positions_index (h : Admits axes ks) : positions axes (index axes ks) = ks := by
  induction h with
  | nil => rfl
  | @cons a k rest ks hk hks ih =>
    have hlt := index_lt hks
    have hpos : 0 < combinations rest := Nat.zero_lt_of_lt hlt
    have hhead : (k * combinations rest + index rest ks) / combinations rest = k := by
      rw [Nat.mul_comm, Nat.mul_add_div hpos, Nat.div_eq_of_lt hlt, Nat.add_zero]
    have htail : (k * combinations rest + index rest ks) % combinations rest =
        index rest ks := by
      rw [Nat.mul_comm, Nat.mul_add_mod, Nat.mod_eq_of_lt hlt]
    rw [index, positions_cons, hhead, Nat.mod_eq_of_lt hk, ← positions_mod, htail, ih]

theorem positions_strictMonoOn : StrictMonoOn (positions axes) (Set.Iio (combinations axes)) := by
  induction axes with
  | nil =>
    intro i hi j hj hij
    rw [Set.mem_Iio, combinations_nil] at hi hj
    omega
  | cons a rest ih =>
    intro i hi j hj hij
    have hpos := combinations_pos_of_lt hi
    have hdigit {i : ℕ} (hi : i ∈ Set.Iio (combinations (a :: rest))) :
        i / combinations rest % a.values.length = i / combinations rest := by
      rw [Set.mem_Iio, combinations_cons, Nat.mul_comm] at hi
      exact Nat.mod_eq_of_lt (Nat.div_lt_of_lt_mul hi)
    rw [positions_cons, positions_cons, hdigit hi, hdigit hj]
    rcases Nat.lt_or_eq_of_le (Nat.div_le_div_right (c := combinations rest) hij.le) with
      hlt | heq
    · exact List.Lex.rel hlt
    · rw [heq]
      refine List.Lex.cons ?_
      have hleft : i % combinations rest < j % combinations rest := by
        have hi' := Nat.div_add_mod i (combinations rest)
        have hj' := Nat.div_add_mod j (combinations rest)
        rw [heq] at hi'
        omega
      have h := ih (Nat.mod_lt i hpos) (Nat.mod_lt j hpos) hleft
      rwa [positions_mod, positions_mod] at h

theorem length_product : (product axes).length = combinations axes := by
  induction axes with
  | nil => rfl
  | cons a rest ih =>
    simp only [product, List.length_flatMap, List.length_map, ih, List.map_const',
      List.sum_replicate_nat, combinations_cons]

theorem getElem?_flatMap_map {α β γ : Type} (f : α → β → γ) (xs : List α) (ys : List β) (i : ℕ) :
    (xs.flatMap fun x ↦ ys.map (f x))[i]? =
      xs[i / ys.length]?.bind fun x ↦ ys[i % ys.length]?.map (f x) := by
  rcases Nat.eq_zero_or_pos ys.length with hnil | hpos
  · simp [List.length_eq_zero_iff.mp hnil]
  induction xs generalizing i with
  | nil => simp
  | cons x xs ih =>
    rw [List.flatMap_cons]
    by_cases hi : i < ys.length
    · rw [List.getElem?_append_left (by simpa using hi), Nat.div_eq_of_lt hi, Nat.mod_eq_of_lt hi]
      simp
    · have hle : ys.length ≤ i := Nat.le_of_not_lt hi
      rw [List.getElem?_append_right (by simpa using hle), List.length_map, ih,
        Nat.div_eq_sub_div hpos hle, Nat.mod_eq_sub_mod hle, List.getElem?_cons_succ]

theorem entries_of_product {es : List (String × AxisValue)} (h : (product axes)[i]? = some es) :
    List.Forall₂ (fun p e ↦ e.1 = p.1.name ∧ p.1.values[p.2]? = some e.2)
      (axes.zip (positions axes i)) es := by
  induction axes generalizing i es with
  | nil =>
    obtain ⟨-, rfl⟩ : i = 0 ∧ [] = es := by simpa [product, List.getElem?_singleton] using h
    exact .nil
  | cons a rest ih =>
    rw [product, getElem?_flatMap_map, length_product] at h
    obtain ⟨x, hx, h⟩ := Option.bind_eq_some_iff.mp h
    obtain ⟨tail, htail, rfl⟩ := Option.map_eq_some_iff.mp h
    obtain ⟨hdigit, -⟩ := List.getElem?_eq_some_iff.mp hx
    rw [positions_cons, Nat.mod_eq_of_lt hdigit, ← positions_mod]
    exact .cons ⟨rfl, hx⟩ (ih htail)

theorem foldl_mul_ofNat (n : UInt64) :
    (axes.foldl (fun n a ↦ n * UInt64.ofNat a.values.length) n) =
      n * UInt64.ofNat (combinations axes) := by
  induction axes generalizing n with
  | nil => simp
  | cons a rest ih =>
    rw [List.foldl_cons, ih, combinations_cons, UInt64.ofNat_mul, UInt64.mul_assoc]

theorem size_eq (m : Matrix) : m.size = combinations m.axes % 2 ^ 64 := by
  rw [size, foldl_mul_ofNat, UInt64.one_mul, UInt64.toNat_ofNat']

theorem values_ne_nil_of_checkAxes {seen : List String} (h : checkAxes seen axes = .ok ()) :
    ∀ a ∈ axes, a.values ≠ [] := (checkAxes_eq_ok_iff.mp h).2.values

theorem combinations_pos (h : ∀ a ∈ axes, a.values ≠ []) : 0 < combinations axes := by
  induction axes with
  | nil => exact Nat.one_pos
  | cons a rest ih =>
    obtain ⟨ha, hrest⟩ := List.forall_mem_cons.mp h
    rw [combinations_cons]
    exact Nat.mul_pos (List.length_pos_of_ne_nil ha) (ih hrest)

theorem length_variants (m : Matrix) : m.variants.length = combinations m.axes := by
  rw [variants, List.length_map, length_product]

end Matrix

def Variant.TakesAt (v : Variant) (axes : List Axis) (ks : List ℕ) : Prop :=
  List.Forall₂ (fun p e ↦ e.1 = p.1.name ∧ p.1.values[p.2]? = some e.2) (axes.zip ks) v.entries

namespace Matrix

/-- The variants of a matrix are as many as the ways to take one value of each axis, and the one at
an index takes the values whose positions are the digits of the index. Every choice of positions has
one index, and greater indices have greater choices, the first axis deciding first. A matrix that is
accepted has variants. -/
theorem variants_enumerate (m : Matrix) :
    m.variants.length = combinations m.axes ∧
    (combinations m.axes < 2 ^ 64 → m.size = m.variants.length) ∧
    (∀ i (v : Variant), m.variants[i]? = some v → v.TakesAt m.axes (positions m.axes i)) ∧
    (∀ i < m.variants.length, Admits m.axes (positions m.axes i)) ∧
    (∀ ks, Admits m.axes ks → ∃! i, i < m.variants.length ∧ positions m.axes i = ks) ∧
    (∀ i < m.variants.length, ∀ j < m.variants.length,
      i < j ↔ positions m.axes i < positions m.axes j) ∧
    ∀ axes, ofAxes? axes = .ok m → m.axes = axes ∧ m.variants ≠ [] := by
  rw [length_variants]
  refine ⟨rfl, fun h ↦ ?_, fun i v h ↦ ?_, fun i ↦ admits_positions, fun ks h ↦ ?_,
    fun i hi j hj ↦ ?_, fun axes h ↦ ?_⟩
  · rw [size_eq, Nat.mod_eq_of_lt h]
  · rw [variants, List.getElem?_map] at h
    obtain ⟨es, hes, rfl⟩ := Option.map_eq_some_iff.mp h
    exact entries_of_product hes
  · refine ⟨index m.axes ks, ⟨index_lt h, positions_index h⟩, ?_⟩
    rintro i ⟨hi, hks⟩
    exact positions_strictMonoOn.injOn hi (index_lt h) (hks.trans (positions_index h).symm)
  · exact (positions_strictMonoOn.lt_iff_lt hi hj).symm
  · obtain ⟨_, hchecked, rfl⟩ := map_eq_ok_iff.mp h
    refine ⟨rfl, fun hnil ↦ ?_⟩
    have hpos := combinations_pos (values_ne_nil_of_checkAxes hchecked)
    have hlen := length_variants ⟨axes⟩
    rw [hnil, List.length_nil] at hlen
    dsimp only at hlen
    omega

def repeating : Matrix :=
  ⟨[⟨Axis.debug, [.bool true, .bool true]⟩, ⟨Axis.cacheTimeout, [.int 0, .int 1, .int 2]⟩,
    ⟨Axis.nameMap, [.str "none"]⟩]⟩

/-- The repeated value counts twice. -/
theorem repeating_enumerated :
    repeating.size = repeating.variants.length ∧
    Variant.TakesAt ⟨[(Axis.debug, .bool true), (Axis.cacheTimeout, .int 1),
      (Axis.nameMap, .str "none")]⟩ repeating.axes (positions repeating.axes 4) ∧
    Admits repeating.axes (positions repeating.axes 4) ∧
    (∃! i, i < repeating.variants.length ∧ positions repeating.axes i = [1, 1, 0]) ∧
    (1 < 4 ↔ positions repeating.axes 1 < positions repeating.axes 4) ∧
    repeating.variants ≠ [] := by
  obtain ⟨-, hsize, htakes, hadmits, hunique, hlt, hnew⟩ := variants_enumerate repeating
  have hchosen : Admits repeating.axes [1, 1, 0] :=
    .cons (by decide) (.cons (by decide) (.cons (by decide) .nil))
  exact ⟨hsize (by decide), htakes 4 _ (by decide), hadmits 4 (by decide), hunique _ hchosen,
    hlt 1 (by decide) 4 (by decide), (hnew repeating.axes (by decide)).2⟩

end Matrix

end MountSweep
