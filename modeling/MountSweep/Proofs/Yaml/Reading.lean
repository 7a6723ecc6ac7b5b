import Mathlib.Algebra.GroupWithZero.Nat
import Mathlib.Data.List.Forall2
import MountSweep.Proofs.Settings
import MountSweep.Yaml.Decode

namespace MountSweep.Yaml

variable {α β γ δ : Type} {d d' : Document} {left left₁ left₂ : ℕ}

namespace Decode

/-- What a reader comes to on a document if it may follow so many aliases, and how many of them are
left. -/
def runOn (a : Decode α) (d : Document) (left : ℕ) : Except Mismatch (α × ℕ) := (a.run d).run left

@[simp] theorem runOn_pure (x : α) : runOn (pure x : Decode α) d left = .ok (x, left) := rfl

@[simp] theorem runOn_mismatch (m : Mismatch) :
    runOn (mismatch m : Decode α) d left = .error m := rfl

@[simp] theorem runOn_get : runOn (get : Decode ℕ) d left = .ok (left, left) := rfl

@[simp] theorem runOn_set (k : ℕ) : runOn (set k : Decode PUnit) d left = .ok (⟨⟩, k) := rfl

@[simp] theorem runOn_read : runOn (read : Decode Document) d left = .ok (d, left) := rfl

theorem runOn_bind (a : Decode α) (f : α → Decode β) :
    runOn (a >>= f) d left =
      match runOn a d left with
      | .ok (x, left₁) => runOn (f x) d left₁
      | .error m => .error m := by
  unfold runOn
  rw [ReaderT.run_bind, StateT.run_bind]
  cases StateT.run (ReaderT.run a d) left <;> rfl

theorem runOn_bind_eq_ok {a : Decode α} {f : α → Decode β} {y : β} :
    runOn (a >>= f) d left = .ok (y, left₂) ↔
      ∃ x left₁, runOn a d left = .ok (x, left₁) ∧ runOn (f x) d left₁ = .ok (y, left₂) := by
  rw [runOn_bind]
  rcases runOn a d left with m | ⟨x, left₁⟩ <;> simp

end Decode

open Decode

/-- Whatever the reader `a` makes of `d`, the reader `a'` makes something of `d'` that `Q` relates
to it, and follows no more aliases. -/
def Follows (d d' : Document) (Q : α → β → Prop) (a : Decode α) (a' : Decode β) : Prop :=
  ∀ left left₁ left' x, runOn a d left = .ok (x, left₁) → left ≤ left' →
    left₁ ≤ left ∧ ∃ x' left₁', runOn a' d' left' = .ok (x', left₁') ∧ Q x x' ∧ left₁ ≤ left₁'

namespace Follows

variable {Q : α → β → Prop} {S : γ → δ → Prop} {a : Decode α} {a' : Decode β}

theorem pure {x : α} {y : β} (h : Q x y) : Follows d d' Q (Pure.pure x) (Pure.pure y) := by
  intro left left₁ left' z hz hle
  cases hz
  exact ⟨Nat.le_refl _, y, left', rfl, h, hle⟩

theorem mismatch (m : Mismatch) : Follows d d' Q (Yaml.mismatch m) a' := nofun

theorem bind {f : α → Decode γ} {f' : β → Decode δ} (h : Follows d d' Q a a')
    (hf : ∀ x x', Q x x' → Follows d d' S (f x) (f' x')) :
    Follows d d' S (a >>= f) (a' >>= f') := by
  intro left left₂ left' y hy hle
  obtain ⟨x, left₁, hx, hy⟩ := runOn_bind_eq_ok.mp hy
  obtain ⟨hle₁, x', left₁', hx', hQ, hle'⟩ := h _ _ _ _ hx hle
  obtain ⟨hle₂, y', left₂', hy', hS, hle''⟩ := hf x x' hQ _ _ _ _ hy hle'
  exact ⟨Nat.le_trans hle₂ hle₁, y', left₂', runOn_bind_eq_ok.mpr ⟨x', left₁', hx', hy'⟩, hS, hle''⟩

theorem bind_eq {a' : Decode α} {f : α → Decode γ} {f' : α → Decode δ} (h : Follows d d' Eq a a')
    (hf : ∀ x, Follows d d' S (f x) (f' x)) : Follows d d' S (a >>= f) (a' >>= f') :=
  h.bind fun x _ hx ↦ hx ▸ hf x

theorem mono {Q' : α → β → Prop} (h : Follows d d' Q a a') (hQ : ∀ x x', Q x x' → Q' x x') :
    Follows d d' Q' a a' := by
  intro left left₁ left' x hx hle
  obtain ⟨hle₁, x', left₁', hx', hQx, hle'⟩ := h _ _ _ _ hx hle
  exact ⟨hle₁, x', left₁', hx', hQ x x' hQx, hle'⟩

theorem mapM {R : γ → δ → Prop} {f : γ → Decode α} {f' : δ → Decode β} {xs : List γ} {ys : List δ}
    (h : List.Forall₂ R xs ys) (hf : ∀ x y, R x y → Follows d d' Q (f x) (f' y)) :
    Follows d d' (List.Forall₂ Q) (xs.mapM f) (ys.mapM f') := by
  induction h with
  | nil => exact pure .nil
  | cons hxy _ ih =>
    rw [List.mapM_cons, List.mapM_cons]
    exact (hf _ _ hxy).bind fun _ _ hQ ↦ ih.bind fun _ _ hQs ↦ pure (.cons hQ hQs)

theorem mapM_eq {R : γ → δ → Prop} {f : γ → Decode α} {f' : δ → Decode α} {xs : List γ}
    {ys : List δ} (h : List.Forall₂ R xs ys) (hf : ∀ x y, R x y → Follows d d' Eq (f x) (f' y)) :
    Follows d d' Eq (xs.mapM f) (ys.mapM f') := by
  simpa only [List.forall₂_eq_eq_eq] using mapM h hf

end Follows

def Node.jumps : Node → ℕ
  | .alias _ => 1
  | _ => 0

namespace Document

def seen? (d : Document) : Node → Option Node
  | .alias number => d.anchor? number
  | n => some n

def text? (d : Document) (n : Node) : Option String :=
  match d.seen? n with
  | some (.scalar _ value _) => some (String.ofList value)
  | _ => none

def items (d : Document) (n : Node) : List Node :=
  match d.seen? n with
  | some (.sequence _ items) => items
  | _ => []

def entries (d : Document) (n : Node) : List (Node × Node) :=
  match d.seen? n with
  | some (.mapping _ entries) => entries
  | _ => []

def valuesIn (d : Document) (es : List (Node × Node)) (name : String) : List Node :=
  (es.filter fun e ↦ d.text? e.1 = some name).map Prod.snd

def given (d : Document) (n : Node) (name : String) : List Node := d.valuesIn (d.entries n) name

end Document

theorem target_runOn {n m : Node} :
    runOn n.target d left = .ok (m, left₁) ↔ d.seen? n = some m ∧ left = left₁ + n.jumps := by
  match n with
  | .alias number =>
    rw [Node.target, runOn_bind, runOn_get, Document.seen?]
    cases left with
    | zero => simp [Node.jumps]
    | succ left₂ =>
      simp only [runOn_bind, runOn_set, runOn_read]
      cases d.anchor? number <;> simp [Node.jumps, eq_comm]
  | .scalar .. | .sequence .. | .mapping .. =>
    simp [Node.target, Document.seen?, Node.jumps, eq_comm]

/-- What is seen of the first node in `d` and of the second one in `d'`, without more aliases, is
related by `P`. -/
def Through (d d' : Document) (P : Node → Node → Prop) (n n' : Node) : Prop :=
  ∃ m m', d.seen? n = some m ∧ d'.seen? n' = some m' ∧ n'.jumps ≤ n.jumps ∧ P m m'

/-- A reader takes as many aliases to the same value however many more may be followed. -/
abbrev Steady (d : Document) (a : Decode α) : Prop := Follows d d Eq a a

section

variable {n n' : Node} {P R : Node → Node → Prop} {r : Node → Decode α}

theorem target_follows (h : Through d d' P n n') : Follows d d' P n.target n'.target := by
  obtain ⟨m, m', hm, hm', hjumps, hP⟩ := h
  intro left left₁ left' x hx hle
  obtain ⟨hseen, rfl⟩ := target_runOn.mp hx
  cases hm.symm.trans hseen
  exact ⟨Nat.le_add_right _ _, m', left' - n'.jumps, target_runOn.mpr ⟨hm', by omega⟩, hP, by omega⟩

theorem target_steady (n : Node) : Steady d n.target := by
  intro left left₁ left' x hx hle
  obtain ⟨hseen, rfl⟩ := target_runOn.mp hx
  exact ⟨Nat.le_add_right _ _, x, left' - n.jumps, target_runOn.mpr ⟨hseen, by omega⟩, rfl,
    by omega⟩

theorem text_follows (h : Follows d d' Eq n.target n'.target) :
    Follows d d' Eq n.text n'.text := by
  refine h.bind_eq fun m ↦ ?_
  split
  · exact .pure rfl
  · exact .mismatch _

theorem text_steady (n : Node) : Steady d n.text := text_follows (target_steady n)

theorem bool_follows (h : Follows d d' Eq n.target n'.target) :
    Follows d d' Eq n.bool n'.bool := by
  refine h.bind_eq fun m ↦ ?_
  split
  · split
    · exact .pure rfl
    · exact .mismatch _
  · exact .mismatch _

theorem nat64_follows (h : Follows d d' Eq n.target n'.target) :
    Follows d d' Eq n.nat64 n'.nat64 := by
  refine h.bind_eq fun m ↦ ?_
  split
  · split
    · split
      · exact .pure rfl
      · exact .mismatch _
    · exact .mismatch _
  · exact .mismatch _

theorem mapM_steady {f : γ → Decode α} (hf : ∀ x, Steady d (f x)) (xs : List γ) :
    Steady d (xs.mapM f) :=
  .mapM_eq (List.forall₂_same.mpr fun _ _ ↦ rfl) fun x _ (hx : x = _) ↦ hx ▸ hf x

theorem items_steady (n : Node) : Steady d n.items := by
  refine (target_steady n).bind_eq fun m ↦ ?_
  split
  · exact .pure rfl
  · exact .pure rfl
  · exact .mismatch _

theorem list_steady (n : Node) (hr : ∀ m, Steady d (r m)) : Steady d (n.list r) :=
  (items_steady n).bind_eq fun ms ↦ mapM_steady hr ms

theorem text_runOn {s : String} :
    runOn n.text d left = .ok (s, left₁) ↔ d.text? n = some s ∧ left = left₁ + n.jumps := by
  unfold Node.text
  rw [runOn_bind_eq_ok]
  constructor
  · rintro ⟨m, left₂, hm, hs⟩
    obtain ⟨hseen, rfl⟩ := target_runOn.mp hm
    split at hs
    · cases hs
      simp [Document.text?, hseen]
    · cases hs
  · rintro ⟨hs, rfl⟩
    unfold Document.text? at hs
    split at hs
    · next tag value style hseen =>
      cases hs
      exact ⟨_, left₁, target_runOn.mpr ⟨hseen, rfl⟩, rfl⟩
    · cases hs

theorem keys_runOn {es : List (Node × Node)} {fs : List (String × Node)} :
    runOn (es.mapM fun (key, value) ↦ do return (← key.text, value)) d left = .ok (fs, left₁) ↔
      es.map (fun e ↦ (d.text? e.1, e.2)) = fs.map (fun f ↦ (some f.1, f.2)) ∧
        left = left₁ + (es.map fun e ↦ e.1.jumps).sum := by
  induction es generalizing fs left with
  | nil =>
    rw [List.mapM_nil, runOn_pure]
    cases fs <;> simp
  | cons e es ih =>
    rw [List.mapM_cons]
    constructor
    · intro h
      obtain ⟨f, left₂, hkey, hf⟩ := runOn_bind_eq_ok.mp h
      obtain ⟨s, left₃, hs, hpair⟩ := runOn_bind_eq_ok.mp hkey
      obtain ⟨fs', left₄, hrest, hcons⟩ := runOn_bind_eq_ok.mp hf
      cases hpair
      cases hcons
      obtain ⟨htext, rfl⟩ := text_runOn.mp hs
      obtain ⟨hmap, rfl⟩ := ih.mp hrest
      refine ⟨by simp [htext, hmap], ?_⟩
      rw [List.map_cons, List.sum_cons]
      omega
    · rintro ⟨hmap, rfl⟩
      obtain _ | ⟨⟨s, value⟩, fs⟩ := fs
      · cases hmap
      simp only [List.map_cons, List.cons.injEq, Prod.mk.injEq] at hmap
      obtain ⟨⟨htext, rfl⟩, hmap⟩ := hmap
      rw [List.map_cons, List.sum_cons]
      refine runOn_bind_eq_ok.mpr ⟨(s, e.2), left₁ + (es.map fun e ↦ e.1.jumps).sum,
        runOn_bind_eq_ok.mpr ⟨s, _, text_runOn.mpr ⟨htext, by omega⟩, rfl⟩,
        runOn_bind_eq_ok.mpr ⟨fs, left₁, ih.mpr ⟨hmap, rfl⟩, rfl⟩⟩

/-- The nodes under a name among fields whose names have been read. -/
def valuesOf (fs : List (String × Node)) (name : String) : List Node :=
  (fs.filter (·.1 = name)).map Prod.snd

theorem valuesOf_eq {es : List (Node × Node)} {fs : List (String × Node)}
    (h : es.map (fun e ↦ (d.text? e.1, e.2)) = fs.map (fun f ↦ (some f.1, f.2))) (name : String) :
    valuesOf fs name = d.valuesIn es name := by
  induction es generalizing fs with
  | nil =>
    cases fs with
    | nil => rfl
    | cons f fs => cases h
  | cons e es ih =>
    obtain _ | ⟨⟨s, value⟩, fs⟩ := fs
    · cases h
    simp only [List.map_cons, List.cons.injEq, Prod.mk.injEq] at h
    obtain ⟨⟨htext, rfl⟩, h⟩ := h
    have := ih h
    simp only [valuesOf, Document.valuesIn, List.filter_cons, htext, Option.some.injEq] at this ⊢
    split <;> simp [this]

theorem fields_steady (n : Node) : Steady d n.fields := by
  refine (target_steady n).bind_eq fun m ↦ ?_
  split
  · exact mapM_steady (fun e ↦ (text_steady e.1).bind_eq fun _ ↦ .pure rfl) _
  · exact .pure rfl
  · exact .mismatch _

theorem fields_runOn {fs : List (String × Node)} (h : runOn n.fields d left = .ok (fs, left₁))
    (name : String) : valuesOf fs name = d.given n name := by
  obtain ⟨m, left₂, hm, hfs⟩ := runOn_bind_eq_ok.mp h
  unfold Document.given Document.entries
  rw [(target_runOn.mp hm).1]
  split at hfs
  · exact valuesOf_eq (keys_runOn.mp hfs).1 name
  · cases hfs
    rfl
  · cases hfs

end

section

variable {fs fs' : List (String × Node)} {name : String} {r : Node → Decode α} {x : α}

theorem fieldOr_eq (fs : List (String × Node)) (name : String) (r : Node → Decode α) (x : α) :
    fieldOr fs name r x =
      match valuesOf fs name with
      | [] => return x
      | [value] => r value
      | _ => mismatch (.repeatedField name) := by
  unfold fieldOr field? valuesOf
  generalize fs.filter (·.1 = name) = gs
  obtain _ | ⟨f, _ | ⟨f', gs⟩⟩ := gs <;> rfl

theorem required_eq (fs : List (String × Node)) (name : String) (r : Node → Decode α) :
    required fs name r =
      match valuesOf fs name with
      | [] => mismatch (.missingField name)
      | [value] => r value
      | _ => mismatch (.repeatedField name) := by
  unfold required field? valuesOf
  generalize fs.filter (·.1 = name) = gs
  obtain _ | ⟨f, _ | ⟨f', gs⟩⟩ := gs <;> rfl

/-- Under one name, the nodes `ms'` give the reader `r` in `d'` what the nodes `ms` give it in
`d`. -/
def Provides (d d' : Document) (r : Node → Decode α) (ms ms' : List Node) : Prop :=
  ∃ ms₁, List.Forall₂ (fun m m' ↦ Follows d d' Eq (r m) (r m')) ms ms₁ ∧ ms₁.Perm ms'

theorem provides_refl (hr : ∀ m, Steady d (r m)) (ms : List Node) : Provides d d r ms ms :=
  ⟨ms, List.forall₂_same.mpr fun m _ ↦ hr m, .refl ms⟩

/-- A field that is given twice is refused, so that the order of the values does not matter. -/
theorem Provides.cases {vs vs' : List Node} (h : Provides d d' r vs vs') :
    (vs = [] ∧ vs' = []) ∨
      (∃ m m', vs = [m] ∧ vs' = [m'] ∧ Follows d d' Eq (r m) (r m')) ∨
      ∃ m₁ m₂ ms, vs = m₁ :: m₂ :: ms := by
  obtain ⟨ms, hms, hperm⟩ := h
  cases hms with
  | nil => exact .inl ⟨rfl, hperm.nil_eq.symm⟩
  | cons hm hrest =>
    cases hrest with
    | nil => exact .inr (.inl ⟨_, _, rfl, List.singleton_perm.mp hperm |>.symm, hm⟩)
    | cons _ _ => exact .inr (.inr ⟨_, _, _, rfl⟩)

theorem fieldOr_follows (h : Provides d d' r (valuesOf fs name) (valuesOf fs' name)) (x : α) :
    Follows d d' Eq (fieldOr fs name r x) (fieldOr fs' name r x) := by
  rw [fieldOr_eq, fieldOr_eq]
  rcases h.cases with ⟨h, h'⟩ | ⟨m, m', h, h', hm⟩ | ⟨m₁, m₂, ms, h⟩
  · rw [h, h']
    exact .pure rfl
  · rw [h, h']
    exact hm
  · rw [h]
    exact .mismatch _

theorem required_follows (h : Provides d d' r (valuesOf fs name) (valuesOf fs' name)) :
    Follows d d' Eq (required fs name r) (required fs' name r) := by
  rw [required_eq, required_eq]
  rcases h.cases with ⟨h, h'⟩ | ⟨m, m', h, h', hm⟩ | ⟨m₁, m₂, ms, h⟩
  · rw [h]
    exact .mismatch _
  · rw [h, h']
    exact hm
  · rw [h]
    exact .mismatch _

end

namespace Document

def reads (d : Document) (a : Decode α) : Except Mismatch α := (runOn a d d.aliasLimit).map (·.1)

/-- A mapping gives one value under a name, and it is `v`; or it gives none, and `v` is the
default. -/
def Takes (d : Document) (n : Node) (name : String) (r : Node → Decode α) (default v : α) : Prop :=
  (d.given n name = [] ∧ v = default) ∨ ∃ m, d.given n name = [m] ∧ d.reads (r m) = .ok v

def Requires (d : Document) (n : Node) (name : String) (r : Node → Decode α) (v : α) : Prop :=
  ∃ m, d.given n name = [m] ∧ d.reads (r m) = .ok v

variable {n : Node} {name : String} {r : Node → Decode α} {default v : α}

theorem Requires.length_le (h : d.Requires n name r v) : (d.given n name).length ≤ 1 := by
  obtain ⟨m, hm, -⟩ := h
  rw [hm]
  exact Nat.le_refl _

theorem Takes.length_le (h : d.Takes n name r default v) : (d.given n name).length ≤ 1 := by
  rcases h with ⟨hnone, -⟩ | h
  · rw [hnone]
    exact Nat.zero_le _
  · exact Requires.length_le h

end Document

/-- A reader comes to a value with some of the aliases that may be followed in the document. -/
def Yields (d : Document) (a : Decode α) (x : α) : Prop :=
  ∃ left left₁, left ≤ d.aliasLimit ∧ runOn a d left = .ok (x, left₁)

namespace Yields

variable {a : Decode α} {f : α → Decode β} {x : α} {y : β} {n : Node} {fs : List (String × Node)}
  {name : String} {r : Node → Decode α}

theorem of_reads (h : d.reads a = .ok x) : Yields d a x := by
  obtain ⟨⟨_, left⟩, hrun, rfl⟩ := map_eq_ok_iff.mp h
  exact ⟨d.aliasLimit, left, Nat.le_refl _, hrun⟩

theorem reads (h : Yields d a x) (ha : Steady d a) : d.reads a = .ok x := by
  obtain ⟨left, left₁, hle, h⟩ := h
  obtain ⟨-, _, left₂, h, rfl, -⟩ := ha _ _ _ _ h hle
  exact map_eq_ok_iff.mpr ⟨(x, left₂), h, rfl⟩

theorem bind (h : Yields d (a >>= f) y) (ha : Steady d a) :
    ∃ x, Yields d a x ∧ Yields d (f x) y := by
  obtain ⟨left, left₂, hle, h⟩ := h
  obtain ⟨x, left₁, hx, hy⟩ := runOn_bind_eq_ok.mp h
  have hle₁ := (ha _ _ _ _ hx (Nat.le_refl _)).1
  exact ⟨x, ⟨left, left₁, hle, hx⟩, left₁, left₂, Nat.le_trans hle₁ hle, hy⟩

theorem pure_eq {x' : α} (h : Yields d (pure x) x') : x' = x := by
  obtain ⟨left, left₁, -, h⟩ := h
  cases h
  rfl

theorem not_mismatch {m : Mismatch} : ¬ Yields d (mismatch m) x := by
  rintro ⟨left, left₁, -, h⟩
  cases h

theorem fields {f : List (String × Node) → Decode β} (h : Yields d (n.fields >>= f) y) :
    ∃ fs, (∀ name, valuesOf fs name = d.given n name) ∧ Yields d (f fs) y := by
  obtain ⟨fs, ⟨left, left₁, -, hfs⟩, hy⟩ := h.bind (fields_steady n)
  exact ⟨fs, fields_runOn hfs, hy⟩

theorem fieldOr (h : Yields d (fieldOr fs name r x >>= f) y)
    (hfs : ∀ name, valuesOf fs name = d.given n name) (hr : ∀ m, Steady d (r m)) :
    ∃ v, d.Takes n name r x v ∧ Yields d (f v) y := by
  obtain ⟨v, hv, hy⟩ := h.bind (fieldOr_follows (provides_refl hr _) x)
  refine ⟨v, ?_, hy⟩
  unfold Document.Takes
  rw [fieldOr_eq, hfs] at hv
  generalize d.given n name = ms at hv
  obtain _ | ⟨m, _ | ⟨m', ms⟩⟩ := ms
  · exact .inl ⟨rfl, hv.pure_eq⟩
  · exact .inr ⟨m, rfl, hv.reads (hr m)⟩
  · exact absurd hv not_mismatch

theorem required (h : Yields d (required fs name r >>= f) y)
    (hfs : ∀ name, valuesOf fs name = d.given n name) (hr : ∀ m, Steady d (r m)) :
    ∃ v, d.Requires n name r v ∧ Yields d (f v) y := by
  obtain ⟨v, hv, hy⟩ := h.bind (required_follows (provides_refl hr _))
  refine ⟨v, ?_, hy⟩
  unfold Document.Requires
  rw [required_eq, hfs] at hv
  generalize d.given n name = ms at hv
  obtain _ | ⟨m, _ | ⟨m', ms⟩⟩ := ms
  · exact absurd hv not_mismatch
  · exact ⟨m, rfl, hv.reads (hr m)⟩
  · exact absurd hv not_mismatch

theorem mapM {r : γ → Decode α} {ms : List γ} {vs : List α} (h : Yields d (ms.mapM r) vs)
    (hr : ∀ m, Steady d (r m)) : List.Forall₂ (fun m v ↦ d.reads (r m) = .ok v) ms vs := by
  induction ms generalizing vs with
  | nil =>
    rw [h.pure_eq]
    exact .nil
  | cons m ms ih =>
    rw [List.mapM_cons] at h
    obtain ⟨v, hv, h⟩ := h.bind (hr m)
    obtain ⟨vs', hvs, h⟩ := h.bind (mapM_steady hr ms)
    rw [h.pure_eq]
    exact .cons (hv.reads (hr m)) (ih hvs)

theorem list {vs : List α} (h : Yields d (n.list r) vs) (hr : ∀ m, Steady d (r m)) :
    List.Forall₂ (fun m v ↦ d.reads (r m) = .ok v) (d.items n) vs := by
  obtain ⟨ms, hms, h⟩ := h.bind (items_steady n)
  obtain ⟨m, hm, hms⟩ := hms.bind (target_steady n)
  obtain ⟨left, left₁, -, hm⟩ := hm
  have hitems : ms = d.items n := by
    rw [Document.items, (target_runOn.mp hm).1]
    split at hms
    · exact hms.pure_eq
    · exact hms.pure_eq
    · exact absurd hms not_mismatch
  exact (hitems ▸ h).mapM hr

end Yields

end MountSweep.Yaml
