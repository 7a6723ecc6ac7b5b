import Mathlib.Data.List.Forall2
import MountSweep.Proofs.Regex.Spans

namespace MountSweep.Regex

/-- A text of a kind stands at a place of a text, given by the number of characters in front. -/
def StandsAt (kind : List Char → Prop) (cs : List Char) (i : ℕ) : Prop :=
  ∃ pre m post, cs = pre ++ m ++ post ∧ pre.length = i ∧ kind m

/-- Stretches of length `n` at places of a kind, from a place on: each is the first that begins
where the one before has ended, or behind it. No two stretches of length zero are at one place. -/
inductive ChosenFrom (stands : ℕ → Prop) (n : ℕ) : ℕ → List Span → Prop
  | done {start : ℕ} (hnone : ∀ i, start ≤ i → ¬ stands i) : ChosenFrom stands n start []
  | next {start i : ℕ} {ws : List Span} (hi : start ≤ i) (hstands : stands i)
      (hfirst : ∀ j, start ≤ j → j < i → ¬ stands j)
      (hws : ChosenFrom stands n (i + max n 1) ws) :
      ChosenFrom stands n start (⟨i, i + n⟩ :: ws)

variable {kind : List Char → Prop} {cs : List Char} {i n start : ℕ} {stands : ℕ → Prop}
  {r : Regex} {ws ws' : List Span}

theorem StandsAt.le (h : StandsAt kind cs i) : i ≤ cs.length := by
  obtain ⟨pre, m, post, rfl, rfl, -⟩ := h
  simp only [List.length_append]
  omega

theorem ChosenFrom.unique (h : ChosenFrom stands n start ws) (h' : ChosenFrom stands n start ws') :
    ws = ws' := by
  induction h generalizing ws' with
  | done hnone =>
    cases h' with
    | done => rfl
    | next hi hstands => exact absurd hstands (hnone _ hi)
  | @next start i ws hi hstands hfirst hws ih =>
    cases h' with
    | done hnone => exact absurd hstands (hnone _ hi)
    | @next _ j ws' hj hstands' hfirst' hws' =>
      obtain rfl : i = j := by
        rcases Nat.lt_trichotomy i j with hlt | heq | hlt
        · exact absurd hstands (hfirst' i hi hlt)
        · exact heq
        · exact absurd hstands' (hfirst j hj hlt)
      rw [ih hws']

/-- Where every place up to the end of a text is of the kind, all of them are chosen. -/
theorem chosenFrom_zero (k start : ℕ) (h : ∀ i, start ≤ i → (stands i ↔ i < start + k)) :
    ChosenFrom stands 0 start ((List.range' start k).map fun i ↦ ⟨i, i⟩) := by
  induction k generalizing start with
  | zero => exact .done fun i hi hstands ↦ by have := (h i hi).mp hstands; omega
  | succ k ih =>
    refine .next (Nat.le_refl _) ((h start (Nat.le_refl _)).mpr (by omega)) (fun j hj hlt ↦ ?_)
      (ih (start + 1) fun i hi ↦ ?_)
    · omega
    · rw [h i (by omega), Nat.add_right_comm]
      exact Iff.rfl

/-- The first place at which a match of length `n` counts, in a search from `start` on. -/
def countsFrom (n : ℕ) (last : Option ℕ) (start : ℕ) : ℕ :=
  if n = 0 ∧ last = some start then start + 1 else start

theorem le_countsFrom (n : ℕ) (last : Option ℕ) (start : ℕ) : start ≤ countsFrom n last start := by
  unfold countsFrom
  split <;> omega

theorem countsFrom_stop (n i : ℕ) : countsFrom n (some (i + n)) (i + n) = i + max n 1 := by
  unfold countsFrom
  rcases Nat.eq_zero_or_pos n with rfl | hpos
  · simp
  · rw [if_neg (by omega), Nat.max_eq_left hpos]

section

variable {last : Option ℕ} (hr : ∀ i ≤ cs.length, ∀ m, r.matchAt? cs i = some m ↔ m = n ∧ stands i)

include hr

theorem counts_iff {m : ℕ} (hle : i ≤ cs.length) (hi : start ≤ i) (hlast : ∀ e ∈ last, e ≤ start) :
    r.Counts cs last i m ↔ m = n ∧ stands i ∧ countsFrom n last start ≤ i := by
  rw [Counts, hr i hle, and_assoc]
  refine and_congr_right fun hm ↦ and_congr_right fun _ ↦ ?_
  subst hm
  -- A match that ended at `i` can only have ended where the search begins.
  have hend : last = some i → i = start := fun h ↦ Nat.le_antisymm (hlast i h) hi
  unfold countsFrom
  constructor
  · intro hcount
    split
    · next h => exact Nat.lt_of_le_of_ne hi fun heq ↦ hcount ⟨h.1, heq ▸ h.2⟩
    · exact hi
  · rintro hfrom ⟨h0, hadj⟩
    obtain rfl := hend hadj
    rw [if_pos ⟨h0, hadj⟩] at hfrom
    omega

variable (hle : ∀ i, stands i → i ≤ cs.length)

include hle

theorem SuccessiveFrom.chosenFrom (h : SuccessiveFrom r cs start last ws)
    (hlast : ∀ e ∈ last, e ≤ start) : ChosenFrom stands n (countsFrom n last start) ws := by
  induction h with
  | @done start last hnone =>
    refine .done fun i hi hstands ↦ ?_
    have hstart := (le_countsFrom n last start).trans hi
    exact hnone i hstart (hle i hstands) n
      ((counts_iff hr (hle i hstands) hstart hlast).mpr ⟨rfl, hstands, hi⟩)
  | @next start i m last ws hi hi' hc hfirst hws ih =>
    obtain ⟨rfl, hstands, hfrom⟩ := (counts_iff hr hi' hi hlast).mp hc
    refine .next hfrom hstands (fun j hj hlt hstands' ↦ ?_) ?_
    · have hstart := (le_countsFrom m last start).trans hj
      exact hfirst j hstart hlt m
        ((counts_iff hr (hle j hstands') hstart hlast).mpr ⟨rfl, hstands', hj⟩)
    · rw [← countsFrom_stop]
      exact ih (by simp)

theorem spans_eq_iff : r.spans cs = ws ↔ ChosenFrom stands n 0 ws := by
  have h : ChosenFrom stands n 0 (r.spans cs) := by
    simpa [countsFrom] using (successive_iff.mpr rfl).chosenFrom hr hle (by simp)
  exact ⟨fun hws ↦ hws ▸ h, h.unique⟩

end

variable {sets : List CharSet}

theorem isPlain_seqs {rs : List Regex} (h : ∀ r ∈ rs, r.isPlain) : (seqs rs).isPlain := by
  induction rs with
  | nil => rfl
  | cons r rs ih =>
    obtain ⟨hr, hrs⟩ := List.forall_mem_cons.mp h
    cases rs with
    | nil => exact hr
    | cons s rs => exact Bool.and_eq_true_iff.mpr ⟨hr, ih hrs⟩

theorem language_sets {b a : Option Char} {t : List Char} :
    Way.language (sets.map .oneOf) b t a ↔ List.Forall₂ (fun s c ↦ s.contains c) sets t := by
  induction sets generalizing b t with
  | nil => simp [Way.language, Language.unit]
  | cons s sets ih =>
    rw [List.map_cons, Way.language, oneOf_followedBy, List.forall₂_cons_left_iff]
    constructor
    · rintro ⟨c, u, rfl, hc, hu⟩
      exact ⟨c, u, hc, ih.mp hu, rfl⟩
    · rintro ⟨c, u, hc, hu, rfl⟩
      exact ⟨c, u, rfl, hc, ih.mpr hu⟩

theorem matchAt?_sets {m : ℕ} (hi : i ≤ cs.length) :
    (seqs (sets.map .oneOf)).matchAt? cs i = some m ↔ m = sets.length ∧
      StandsAt (List.Forall₂ (fun s c ↦ s.contains c) sets) cs i := by
  have hplain : (seqs (sets.map .oneOf)).isPlain := isPlain_seqs (by simp [isPlain])
  have hfound {b : Option Char} {rest : List Char} {m : ℕ}
      (h : (seqs (sets.map .oneOf)).matchLength? b rest = some m) : ∃ t u, rest = t ++ u ∧
        m = sets.length ∧ List.Forall₂ (fun s c ↦ s.contains c) sets t := by
    obtain ⟨t, u, hrest, hlen, hl⟩ := language_of_matchLength? hplain h
    rw [language_seqs, language_sets] at hl
    exact ⟨t, u, hrest, hlen.symm.trans hl.length_eq.symm, hl⟩
  constructor
  · intro h
    obtain ⟨t, u, hrest, hm, ht⟩ := hfound h
    refine ⟨hm, cs.take i, t, u, ?_, List.length_take_of_le hi, ht⟩
    rw [List.append_assoc, ← hrest, List.take_append_drop]
  · rintro ⟨rfl, pre, t, post, rfl, rfl, ht⟩
    have hl : (seqs (sets.map .oneOf)).language pre.getLast? t post.head? := by
      rwa [language_seqs, language_sets]
    obtain ⟨m, hm⟩ := Option.isSome_iff_exists.mp (isSome_matchLength? hplain hl)
    obtain ⟨-, -, -, rfl, -⟩ := hfound hm
    rw [matchAt?, List.append_assoc, List.take_left, List.drop_left, hm]

theorem spans_sets_eq_iff (sets : List CharSet) (cs : List Char) (ws : List Span) :
    (seqs (sets.map .oneOf)).spans cs = ws ↔
      ChosenFrom (StandsAt (List.Forall₂ (fun s c ↦ s.contains c) sets) cs) sets.length 0 ws :=
  spans_eq_iff (fun _ hi _ ↦ matchAt?_sets hi) fun _ ↦ StandsAt.le

end MountSweep.Regex
