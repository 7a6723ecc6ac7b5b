import Mathlib.Data.List.Induction
import Mathlib.Data.List.Sort
import Mathlib.Data.String.Basic
import MountSweep.Proofs.Documents.Readers
import MountSweep.Proofs.Documents.Spans

namespace MountSweep

open Yaml Time Output

variable {d : Document} {n : Node}

/-- A kind of value: how a node is read as one, and which one the node means, whatever reads it. -/
structure Yaml.Kind (α : Type) where
  read : Node → Decode α
  Means : Document → Node → α → Prop
  steady (d : Document) (n : Node) : Steady d (read n)
  sound {d : Document} {n : Node} {x : α} (h : d.reads (read n) = .ok x) : Means d n x
  unique {d : Document} {n : Node} {x y : α} (hx : Means d n x) (hy : Means d n y) : x = y

namespace Yaml.Kind

variable {α : Type} {kind : Kind α} {ms : List Node} {default x y : α}

def Given (kind : Kind α) (d : Document) (ms : List Node) (x : α) : Prop :=
  ∃ m, ms = [m] ∧ kind.Means d m x

/-- There is one node, and it means the value; or there is none, and the value is the default. -/
def GivenOr (kind : Kind α) (d : Document) (ms : List Node) (default x : α) : Prop :=
  ms = [] ∧ x = default ∨ kind.Given d ms x

theorem Given.unique (hx : kind.Given d ms x) (hy : kind.Given d ms y) : x = y := by
  obtain ⟨m, rfl, hx⟩ := hx
  obtain ⟨m', hm, hy⟩ := hy
  cases hm
  exact kind.unique hx hy

theorem GivenOr.unique (hx : kind.GivenOr d ms default x) (hy : kind.GivenOr d ms default y) :
    x = y := by
  rcases hx with ⟨rfl, rfl⟩ | hx <;> rcases hy with ⟨hms, rfl⟩ | hy
  · rfl
  · obtain ⟨m, hm, -⟩ := hy
    cases hm
  · obtain ⟨m, hm, -⟩ := hx
    cases hm.symm.trans hms
  · exact hx.unique hy

theorem given_of_requires (kind : Kind α) {name : String} (h : d.Requires n name kind.read x) :
    kind.Given d (d.given n name) x := by
  obtain ⟨m, hm, h⟩ := h
  exact ⟨m, hm, kind.sound h⟩

theorem givenOr_of_takes (kind : Kind α) {name : String}
    (h : d.Takes n name kind.read default x) : kind.GivenOr d (d.given n name) default x :=
  h.imp_right kind.given_of_requires

end Yaml.Kind

def AxisValue.scalar : AxisValue → Scalar
  | .bool b => .bool b
  | .int k => .int k.toNat
  | .str s => .text s.toList

theorem AxisValue.eq_of_meant {tag : Option Bytes} {cs : List Char} {style : ScalarStyle}
    {v w : AxisValue} (hv : v.scalar.Meant tag cs style) (hw : w.scalar.Meant tag cs style) :
    v = w := by
  cases v with
  | bool b =>
    obtain ⟨htag, hb⟩ := hv
    cases w with
    | bool b' =>
      have hb' := boolValue?_eq_some_iff.mpr hw.2
      rw [boolValue?_eq_some_iff.mpr hb] at hb'
      cases hb'
      rfl
    | int k => exact absurd hb hw.2.not_truth
    | str s => exact absurd hb ((htag.isPlainText (by decide) hw.2).not_truth b)
  | int k =>
    obtain ⟨htag, hk⟩ := hv
    cases w with
    | bool b => exact absurd hw.2 hk.not_truth
    | int k' =>
      have hk' := intValue?_eq_some_iff.mpr hw.2
      rw [intValue?_eq_some_iff.mpr hk] at hk'
      exact congrArg AxisValue.int (UInt64.toNat_inj.mp (Int.ofNat.inj (Option.some.inj hk')))
    | str s =>
      have hlt := k.toNat_lt
      rcases (htag.isPlainText (by decide) hw.2).not_fits hk with h | h <;> omega
  | str s =>
    obtain ⟨rfl, htext⟩ := hv
    cases w with
    | bool b => exact absurd hw.2 ((hw.1.isPlainText (by decide) htext).not_truth b)
    | int k =>
      have hlt := k.toNat_lt
      rcases (hw.1.isPlainText (by decide) htext).not_fits hw.2 with h | h <;> omega
    | str s' => exact congrArg AxisValue.str (String.toList_inj.mp hw.1.symm)

namespace Yaml

theorem Yields.target {α : Type} {f : Node → Decode α} {x : α} (h : Yields d (n.target >>= f) x) :
    ∃ m, d.seen? n = some m ∧ Yields d (f m) x := by
  obtain ⟨m, ⟨left, left₁, -, hm⟩, hx⟩ := h.bind (target_steady n)
  exact ⟨m, (target_runOn.mp hm).1, hx⟩

/-- The spelling of a scalar counts if it is plain, or literal with the tag of its kind. -/
def Bare (kind : String) (tag : Option Bytes) (style : ScalarStyle) : Prop :=
  style = .plain ∨ style = .literal ∧ tag = some (coreTag kind)

theorem isSpelled_iff {kind : String} {tag : Option Bytes} {style : ScalarStyle} :
    Node.isSpelled kind tag style = true ↔ Bare kind tag style := by
  simp [Node.isSpelled, Bare]

/-- A scalar is seen, and it counts how it is spelled. -/
def Document.Spelled (d : Document) (n : Node) (kind : String) (cs : List Char) : Prop :=
  ∃ tag style, d.seen? n = some (.scalar tag cs style) ∧ Bare kind tag style

theorem Document.Spelled.unique {kind : String} {cs cs' : List Char} (h : d.Spelled n kind cs)
    (h' : d.Spelled n kind cs') : cs = cs' := by
  obtain ⟨tag, style, hseen, -⟩ := h
  obtain ⟨tag', style', hseen', -⟩ := h'
  cases hseen.symm.trans hseen'
  rfl

theorem text?_of_reads {s : String} (h : d.reads n.text = .ok s) : d.text? n = some s := by
  obtain ⟨⟨_, left⟩, hrun, rfl⟩ := map_eq_ok_iff.mp h
  exact (text_runOn.mp hrun).1

theorem truth_of_reads {b : Bool} (h : d.reads n.bool = .ok b) :
    ∃ cs, d.Spelled n "bool" cs ∧ Truth cs b := by
  obtain ⟨m, hm, h⟩ := (Yields.of_reads h).target
  split at h
  · next tag cs style =>
    split at h
    · next b' hb =>
      obtain ⟨hspelled, hb⟩ := Option.ite_none_right_eq_some.mp hb
      cases h.pure_eq
      exact ⟨cs, ⟨tag, style, hm, isSpelled_iff.mp hspelled⟩, boolValue?_eq_some_iff.mp hb⟩
    · exact absurd h Yields.not_mismatch
  · exact absurd h Yields.not_mismatch

theorem natural_of_reads {k : ℕ} (h : d.reads n.nat64 = .ok k) :
    ∃ cs, d.Spelled n "int" cs ∧ Natural cs k ∧ k < 2 ^ 64 := by
  obtain ⟨m, hm, h⟩ := (Yields.of_reads h).target
  split at h
  · next tag cs style =>
    split at h
    · next k' hk =>
      obtain ⟨hspelled, hk⟩ := Option.ite_none_right_eq_some.mp hk
      split at h
      · next hlt =>
        cases h.pure_eq
        exact ⟨cs, ⟨tag, style, hm, isSpelled_iff.mp hspelled⟩, natValue?_eq_some_iff.mp hk, hlt⟩
      · exact absurd h Yields.not_mismatch
    · exact absurd h Yields.not_mismatch
  · exact absurd h Yields.not_mismatch

theorem meant_of_reads {v : AxisValue} (h : d.reads (AxisValue.ofNode n) = .ok v) :
    ∃ tag cs style, d.seen? n = some (.scalar tag cs style) ∧ v.scalar.Meant tag cs style := by
  obtain ⟨m, hm, h⟩ := (Yields.of_reads h).target
  split at h
  · next tag cs style =>
    refine ⟨tag, cs, style, hm, ?_⟩
    split at h
    · next b hb =>
      cases h.pure_eq
      exact ofTagged?_meant hb
    · next i hi =>
      split at h
      · next hrange =>
        cases h.pure_eq
        have hi' : ((UInt64.ofNat i.toNat).toNat : ℤ) = i := by
          have hlt : i.toNat < 2 ^ 64 := by omega
          rw [UInt64.toNat_ofNat_of_lt' hlt]
          omega
        rw [AxisValue.scalar, hi']
        exact ofTagged?_meant hi
      · exact absurd h Yields.not_mismatch
    · next cs' hcs =>
      cases h.pure_eq
      rw [AxisValue.scalar, String.toList_ofList]
      exact ofTagged?_meant hcs
    · exact absurd h Yields.not_mismatch
  · exact absurd h Yields.not_mismatch

theorem spells_of_reads {s : Span} (h : d.reads (Span.ofNode n) = .ok s) :
    ∃ text, d.text? n = some text ∧ Human.Spells text.toList s := by
  obtain ⟨text, htext, hs⟩ := (Yields.of_reads h).bind (text_steady n)
  split at hs
  · next s' hs' =>
    cases hs.pure_eq
    exact ⟨text, text?_of_reads (htext.reads (text_steady n)), Human.spells_of_parse? hs'⟩
  · exact absurd hs Yields.not_mismatch

namespace Kind

def text : Kind String where
  read := Node.text
  Means d n s := d.text? n = some s
  steady _ n := text_steady n
  sound := text?_of_reads
  unique hx hy := Option.some.inj (hx.symm.trans hy)

def path : Kind Path where
  read := ServiceConfig.binaryOfNode
  Means d n p := ∃ s, d.text? n = some s ∧ p = Bytes.ofString s
  steady _ n := ServiceConfig.binaryOfNode_follows (target_steady n)
  sound {_ n _} h := by
    obtain ⟨s, hs, hp⟩ := (Yields.of_reads h).bind (text_steady n)
    exact ⟨s, text?_of_reads (hs.reads (text_steady n)), hp.pure_eq⟩
  unique hx hy := by
    obtain ⟨s, hs, rfl⟩ := hx
    obtain ⟨s', hs', rfl⟩ := hy
    rw [text.unique hs hs']

def bool : Kind Bool where
  read := Node.bool
  Means d n b := ∃ cs, d.Spelled n "bool" cs ∧ Truth cs b
  steady _ n := bool_follows (target_steady n)
  sound := truth_of_reads
  unique hx hy := by
    obtain ⟨cs, hcs, hx⟩ := hx
    obtain ⟨cs', hcs', hy⟩ := hy
    cases hcs.unique hcs'
    have hxy := boolValue?_eq_some_iff.mpr hy
    rw [boolValue?_eq_some_iff.mpr hx] at hxy
    exact Option.some.inj hxy

def count : Kind ℕ where
  read := Node.nat64
  Means d n k := ∃ cs, d.Spelled n "int" cs ∧ Natural cs k ∧ k < 2 ^ 64
  steady _ n := nat64_follows (target_steady n)
  sound := natural_of_reads
  unique hx hy := by
    obtain ⟨cs, hcs, hx, -⟩ := hx
    obtain ⟨cs', hcs', hy, -⟩ := hy
    cases hcs.unique hcs'
    have hxy := natValue?_eq_some_iff.mpr hy
    rw [natValue?_eq_some_iff.mpr hx] at hxy
    exact Option.some.inj hxy

def axisValue : Kind AxisValue where
  read := AxisValue.ofNode
  Means d n v := ∃ tag cs style, d.seen? n = some (.scalar tag cs style) ∧
    v.scalar.Meant tag cs style
  steady _ n := AxisValue.ofNode_follows (target_steady n)
  sound := meant_of_reads
  unique hv hw := by
    obtain ⟨tag, cs, style, hseen, hv⟩ := hv
    obtain ⟨tag', cs', style', hseen', hw⟩ := hw
    cases hseen.symm.trans hseen'
    exact AxisValue.eq_of_meant hv hw

def span : Kind Span where
  read := Span.ofNode
  Means d n s := ∃ text, d.text? n = some text ∧ Human.Spells text.toList s
  steady _ n := Span.ofNode_steady n
  sound := spells_of_reads
  unique hx hy := by
    obtain ⟨t, ht, hs⟩ := hx
    obtain ⟨t', ht', hs'⟩ := hy
    cases text.unique ht ht'
    exact hs.unique hs'

def list {α : Type} (kind : Kind α) : Kind (List α) where
  read := Node.list kind.read
  Means d n xs := List.Forall₂ (kind.Means d) (d.items n) xs
  steady d n := list_steady n (kind.steady d)
  sound {d _ _} h := ((Yields.of_reads h).list (kind.steady d)).imp fun _ _ ↦ kind.sound
  unique {d _ _ _} hx hy :=
    List.right_unique_forall₂' (R := kind.Means d) (fun _ _ _ ↦ kind.unique) hx hy

end Kind

end Yaml

namespace ServiceConfig

section

variable {α : Type} {P : α → Bool} {xs : List α} {x : α}

theorem mem_takeWhile_iff (h : xs.Pairwise fun x y ↦ P y → P x) :
    x ∈ xs.takeWhile P ↔ x ∈ xs ∧ P x := by
  induction h with
  | nil => simp
  | @cons y ys hy _ ih =>
    by_cases hP : P y
    · rw [List.takeWhile_cons_of_pos hP, List.mem_cons, List.mem_cons, ih]
      grind
    · rw [List.takeWhile_cons_of_neg hP, List.mem_cons]
      grind

theorem mem_dropWhile_iff (h : xs.Pairwise fun x y ↦ P y → P x) :
    x ∈ xs.dropWhile P ↔ x ∈ xs ∧ ¬ P x := by
  induction h with
  | nil => simp
  | @cons y ys hy _ ih =>
    by_cases hP : P y
    · rw [List.dropWhile_cons_of_pos hP, List.mem_cons, ih]
      grind
    · rw [List.dropWhile_cons_of_neg hP, List.mem_cons]
      grind

end

variable {vars sorted : List (String × String)} {name value : String}

/-- Variables stand in the order of their names, and no name comes twice. -/
def Ordered (vars : List (String × String)) : Prop := vars.Pairwise fun x y ↦ x.1 < y.1

theorem Ordered.insert (h : Ordered sorted) :
    Ordered (sorted.takeWhile (·.1 < name) ++
      (name, value) :: (sorted.dropWhile (·.1 < name)).dropWhile (·.1 = name)) ∧
    ∀ x, x ∈ sorted.takeWhile (·.1 < name) ++
        (name, value) :: (sorted.dropWhile (·.1 < name)).dropWhile (·.1 = name) ↔
      x = (name, value) ∨ x ∈ sorted ∧ x.1 ≠ name := by
  have hbelow : sorted.Pairwise fun x y ↦ decide (y.1 < name) → decide (x.1 < name) := by
    refine h.imp fun hlt hy ↦ ?_
    simp only [decide_eq_true_eq] at hy ⊢
    exact hlt.trans hy
  have hrest : (sorted.dropWhile (·.1 < name)).Pairwise fun x y ↦
      decide (y.1 = name) → decide (x.1 = name) := by
    refine (h.sublist (List.dropWhile_sublist _)).imp_of_mem fun {x y} hx _ hlt hy ↦ ?_
    have hnot := ((mem_dropWhile_iff hbelow).mp hx).2
    simp only [decide_eq_true_eq] at hy hnot
    exact absurd (hy ▸ hlt) hnot
  have hmem (x : String × String) : x ∈ (sorted.dropWhile (·.1 < name)).dropWhile (·.1 = name) ↔
      x ∈ sorted ∧ name < x.1 := by
    rw [mem_dropWhile_iff hrest, mem_dropWhile_iff hbelow]
    simp only [decide_eq_true_eq, not_lt, and_assoc]
    exact and_congr_right fun _ ↦ ⟨fun h ↦ lt_of_le_of_ne h.1 (Ne.symm h.2),
      fun h ↦ ⟨h.le, h.ne'⟩⟩
  refine ⟨?_, fun x ↦ ?_⟩
  · refine List.pairwise_append.mpr ⟨h.sublist (List.takeWhile_sublist _),
      List.pairwise_cons.mpr ⟨fun x hx ↦ ((hmem x).mp hx).2,
        h.sublist ((List.dropWhile_sublist _).trans (List.dropWhile_sublist _))⟩, ?_⟩
    intro x hx y hy
    have hxname : x.1 < name := by simpa using ((mem_takeWhile_iff hbelow).mp hx).2
    rcases List.mem_cons.mp hy with rfl | hy
    · exact hxname
    · exact hxname.trans ((hmem y).mp hy).2
  · rw [List.mem_append, List.mem_cons, mem_takeWhile_iff hbelow, hmem, ne_iff_lt_or_gt,
      decide_eq_true_eq]
    tauto

theorem sortedVariables_append (vars : List (String × String)) (v : String × String) :
    sortedVariables (vars ++ [v]) =
      (sortedVariables vars).takeWhile (·.1 < v.1) ++
        v :: ((sortedVariables vars).dropWhile (·.1 < v.1)).dropWhile (·.1 = v.1) := by
  unfold sortedVariables
  rw [List.foldl_append, List.foldl_cons, List.foldl_nil]

theorem ordered_sortedVariables (vars : List (String × String)) :
    Ordered (sortedVariables vars) := by
  induction vars using List.reverseRecOn with
  | nil => exact .nil
  | append_singleton vars v ih =>
    rw [sortedVariables_append]
    exact ih.insert.1

theorem mem_sortedVariables_iff {v : String × String} :
    v ∈ sortedVariables vars ↔ (vars.filter (·.1 = v.1)).getLast? = some v := by
  induction vars using List.reverseRecOn with
  | nil => simp [sortedVariables]
  | append_singleton vars w ih =>
    rw [sortedVariables_append, (ordered_sortedVariables vars).insert.2, ih, List.filter_append]
    obtain ⟨wname, wvalue⟩ := w
    by_cases hname : wname = v.1
    · subst hname
      simp [eq_comm]
    · have hne : v ≠ (wname, wvalue) := fun h ↦ hname (congrArg Prod.fst h).symm
      simp [hname, hne, Ne.symm hname]

theorem getLast?_rel {α β : Type} {R : α → β → Prop} {xs : List α} {ys : List β}
    (h : List.Forall₂ R xs ys) : Option.Rel R xs.getLast? ys.getLast? := by
  rw [← List.head?_reverse, ← List.head?_reverse]
  replace h := List.rel_reverse h
  generalize xs.reverse = xs at h
  generalize ys.reverse = ys at h
  cases h with
  | nil => exact .none
  | cons hR _ => exact .some hR

theorem variables_of_reads {vars : List (String × String)} (h : d.reads (envOfNode n) = .ok vars) :
    Ordered vars ∧ ∀ name value, (name, value) ∈ vars ↔
      ∃ m, (d.given n name).getLast? = some m ∧ d.text? m = some value := by
  obtain ⟨fs, hfs, h⟩ := (Yields.of_reads h).fields
  have hvalue (f : String × Node) :
      Steady d (do return (f.1, ← f.2.text) : Decode (String × String)) :=
    (text_steady f.2).bind_eq fun _ ↦ .pure rfl
  obtain ⟨vs, hvs, h⟩ := h.bind (mapM_steady hvalue fs)
  cases h.pure_eq
  refine ⟨ordered_sortedVariables vs, fun name value ↦ ?_⟩
  have hread : List.Forall₂ (fun f v ↦ v.1 = f.1 ∧ d.text? f.2 = some v.2) fs vs := by
    refine (hvs.mapM hvalue).imp fun f v hv ↦ ?_
    obtain ⟨s, hs, hv⟩ := (Yields.of_reads hv).bind (text_steady f.2)
    cases hv.pure_eq
    exact ⟨rfl, text?_of_reads (hs.reads (text_steady f.2))⟩
  have hlast := getLast?_rel (List.rel_filter (p := fun f ↦ decide (f.1 = name))
    (q := fun v ↦ decide (v.1 = name)) (fun f v hv ↦ by simp [hv.1]) hread)
  rw [mem_sortedVariables_iff, ← hfs, valuesOf, List.getLast?_map]
  generalize hf : (fs.filter _).getLast? = f at hlast
  generalize hv : (vs.filter _).getLast? = v at hlast
  cases hlast with
  | none => simp
  | @some f v hfv =>
    obtain ⟨hname, htext⟩ := hfv
    have hv' : v.1 = name := by
      simpa using (List.mem_filter.mp (List.mem_of_getLast? hv)).2
    obtain ⟨vname, v⟩ := v
    subst hv'
    simp [htext, eq_comm]

theorem Ordered.eq_of_mem_iff {vars vars' : List (String × String)} (h : Ordered vars)
    (h' : Ordered vars') (hmem : ∀ x, x ∈ vars ↔ x ∈ vars') : vars = vars' := by
  have : Std.Antisymm fun x y : String × String ↦ x.1 < y.1 :=
    ⟨fun _ _ hlt hgt ↦ absurd hgt hlt.asymm⟩
  have : Std.Irrefl fun x y : String × String ↦ x.1 < y.1 := ⟨fun _ ↦ lt_irrefl _⟩
  exact List.Pairwise.eq_of_mem_iff h h' hmem

end ServiceConfig

/-- The variables under their names in order; what is given last under a name is its value. -/
def Yaml.Kind.variables : Kind (List (String × String)) where
  read := ServiceConfig.envOfNode
  Means d n vars := ServiceConfig.Ordered vars ∧ ∀ name value, (name, value) ∈ vars ↔
    ∃ m, (d.given n name).getLast? = some m ∧ d.text? m = some value
  steady _ n := ServiceConfig.envOfNode_steady n
  sound := ServiceConfig.variables_of_reads
  unique hx hy := hx.1.eq_of_mem_iff hy.1 fun x ↦ (hx.2 x.1 x.2).trans (hy.2 x.1 x.2).symm

end MountSweep
