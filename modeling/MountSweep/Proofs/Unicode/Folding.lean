import Mathlib.Data.List.Basic
import MountSweep.Regex.CharSet

namespace MountSweep.Unicode

def longS : Char := Char.ofNat 0x17F

def kelvin : Char := Char.ofNat 0x212A

theorem shiftAt_cases (n : ℕ) (runs : List (ℕ × ℕ × ℕ × Int)) :
    shiftAt n runs = 0 ∨
      ∃ run ∈ runs, run.1 ≤ n ∧ n ≤ run.2.1 ∧ shiftAt n runs = run.2.2.2 := by
  induction runs with
  | nil => exact .inl rfl
  | cons run runs ih =>
    obtain ⟨first, last, step, shift⟩ := run
    by_cases h : first ≤ n ∧ n ≤ last ∧ (n - first) % step = 0
    · exact .inr ⟨_, List.mem_cons_self, h.1, h.2.1, if_pos h⟩
    · have hrest : shiftAt n ((first, last, step, shift) :: runs) = shiftAt n runs := if_neg h
      rw [hrest]
      exact ih.imp_right fun ⟨run, hrun, hn⟩ ↦ ⟨run, List.mem_cons_of_mem _ hrun, hn⟩

theorem exists_of_mem_sourcesOf {m n : ℕ} {runs : List (ℕ × ℕ × ℕ × Int)}
    (h : n ∈ sourcesOf m runs) : ∃ run ∈ runs, run.1 ≤ n ∧ n ≤ run.2.1 := by
  obtain ⟨⟨first, last, step, shift⟩, hrun, hn⟩ := List.mem_filterMap.mp h
  simp only [Option.ite_none_right_eq_some, Option.some.injEq] at hn
  obtain ⟨⟨hfirst, hlast, -⟩, rfl⟩ := hn
  exact ⟨_, hrun, hfirst, hlast⟩

/-- Runs of the folding table that begin beyond ASCII stay there, but for two characters. -/
theorem runs_ascii : ∀ run ∈ FoldingTable.runs, run.2.1 < 0x80 ∨ 0x80 ≤ (run.1 : Int) + run.2.2.2 ∨
    run.1 = run.2.1 ∧ (run.1 = 0x17F ∨ run.1 = 0x212A) := by
  decide +kernel

theorem runs_capitals : ∀ run ∈ FoldingTable.runs,
    0x41 ≤ run.1 ∧ run.2.1 ≤ 0x5A ∨ 0x80 ≤ run.1 := by
  decide +kernel

variable {c d : Char}

theorem toNat_ofNat_of_ne {n : ℕ} (h : (Char.ofNat n).toNat ≠ 0) : (Char.ofNat n).toNat = n := by
  by_cases hn : n.isValidChar
  · rw [Char.ofNat, dif_pos hn]
    rfl
  · rw [Char.ofNat, dif_neg hn] at h
    exact absurd rfl h

theorem eq_ofNat_of_toNat {n : ℕ} (h : c.toNat = n) : c = Char.ofNat n := by
  rw [← h, Char.ofNat_toNat]

theorem ascii_induction {P : Char → Prop} (h : ∀ n < 0x80, P (Char.ofNat n)) (hc : c.toNat < 0x80) :
    P c := by
  rw [← Char.ofNat_toNat c]
  exact h _ hc

theorem lt_of_fold_eq (h : fold c = d) (hd : d.toNat < 0x80) (hne : d.toNat ≠ 0) :
    c.toNat < 0x80 ∨ c = longS ∨ c = kelvin := by
  by_cases hc : c.toNat < 0x80
  · exact .inl hc
  · right
    rw [fold, if_neg hc] at h
    have hm := toNat_ofNat_of_ne (h ▸ hne)
    rw [h] at hm
    -- A run that reaches ASCII from beyond it consists of one of the two characters.
    rcases shiftAt_cases c.toNat FoldingTable.runs with h0 | ⟨run, hrun, hfirst, hlast, hshift⟩
    · omega
    · rcases runs_ascii run hrun with hlow | hhigh | ⟨hone, heq | heq⟩
      · omega
      · omega
      · exact .inl (eq_ofNat_of_toNat (by omega))
      · exact .inr (eq_ofNat_of_toNat (by omega))

theorem toNat_of_isAlpha (h : d.isAlpha) : 0x41 ≤ d.toNat ∧ d.toNat ≤ 0x7A := by
  delta Char.isAlpha Char.isUpper Char.isLower at h
  simp only [Bool.or_eq_true, Bool.and_eq_true, decide_eq_true_eq, UInt32.le_iff_toNat_le] at h
  have hval : d.toNat = d.val.toNat := rfl
  simp at h
  omega

theorem toNat_of_isDigit (h : d.isDigit) : 0x30 ≤ d.toNat ∧ d.toNat ≤ 0x39 := by
  simp only [Char.isDigit, Bool.and_eq_true, decide_eq_true_eq, UInt32.le_iff_toNat_le] at h
  have hval : d.toNat = d.val.toNat := rfl
  simp at h
  omega

theorem isUpper_iff_toNat : d.isUpper ↔ 0x41 ≤ d.toNat ∧ d.toNat ≤ 0x5A := by
  delta Char.isUpper
  simp only [decide_eq_true_eq, UInt32.le_iff_toNat_le]
  exact Iff.rfl

theorem isAlpha_fold (h : d.isAlpha) : (fold d).isAlpha := by
  have hascii := toNat_of_isAlpha h
  refine ascii_induction (P := fun d ↦ d.isAlpha → (fold d).isAlpha) ?_ (by omega) h
  decide

theorem isWord_of_fold_eq (h : fold c = d) (hd : d.isAlpha) : isWord c := by
  have hascii := toNat_of_isAlpha hd
  rcases lt_of_fold_eq h (by omega) (by omega) with hc | rfl | rfl
  · refine ascii_induction (P := fun c ↦ (fold c).isAlpha → isWord c) ?_ hc (h ▸ hd)
    decide
  · decide +kernel
  · decide +kernel

theorem isDigit_of_fold (h : (fold c).isDigit) : c.isDigit := by
  have hascii := toNat_of_isDigit h
  rcases lt_of_fold_eq (c := c) rfl (by omega) (by omega) with hc | rfl | rfl
  · refine ascii_induction (P := fun c ↦ (fold c).isDigit → c.isDigit) ?_ hc h
    decide
  · revert h
    decide +kernel
  · revert h
    decide +kernel

theorem fold_of_isDigit (h : c.isDigit) : fold c = c := by
  have hascii := toNat_of_isDigit h
  refine ascii_induction (P := fun c ↦ c.isDigit → fold c = c) ?_ (by omega) h
  decide

/-- A character of ASCII that is no capital letter is a variant only of what folds to it. -/
theorem mem_caseVariants_iff (hd : d.toNat < 0x80) (hne : d.toNat ≠ 0) (hu : ¬ d.isUpper) :
    d ∈ caseVariants c ↔ fold c = d := by
  refine ⟨fun h ↦ ?_, fun h ↦ h ▸ List.mem_cons_self⟩
  rcases List.mem_cons.mp h with h | h
  · exact h.symm
  · obtain ⟨n, hn, hnd⟩ := List.mem_map.mp h
    obtain ⟨run, hrun, hfirst, hlast⟩ := exists_of_mem_sourcesOf hn
    have hm := toNat_ofNat_of_ne (hnd ▸ hne)
    rw [hnd] at hm
    rcases runs_capitals run hrun with hcap | hhigh
    · exact absurd (isUpper_iff_toNat.mpr (by omega)) hu
    · omega

end MountSweep.Unicode
