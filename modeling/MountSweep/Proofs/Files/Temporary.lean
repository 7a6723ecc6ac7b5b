import Mathlib.Algebra.Group.Nat.Defs
import Mathlib.Data.List.GetD
import Mathlib.Data.List.Nodup
import Mathlib.Data.List.Perm.Subperm
import Mathlib.Data.Nat.Basic
import MountSweep.Posix.FileSystem.Temporary
import MountSweep.Proofs.Files.Calls

namespace MountSweep.Posix.FileSystem

variable {stem : Bytes} {taken : List Bytes} {m n : Nat}

theorem temporaryLetters_nodup : temporaryLetters.Nodup := by decide +kernel

theorem length_temporaryLetters : temporaryLetters.length = 26 := by decide +kernel

theorem temporaryLetters_inj (h : temporaryLetters.getD (m % 26) 97 =
    temporaryLetters.getD (n % 26) 97) : m % 26 = n % 26 := by
  have hlt (k : Nat) : k % 26 < temporaryLetters.length :=
    length_temporaryLetters ▸ Nat.mod_lt k (by decide)
  rw [List.getD_eq_getElem _ _ (hlt m), List.getD_eq_getElem _ _ (hlt n)] at h
  exact temporaryLetters_nodup.getElem_inj_iff.mp h

def temporaryCount : Nat := 26 ^ 6

theorem temporaryName_mod (stem : Bytes) (n : Nat) :
    temporaryName stem (n % temporaryCount) = temporaryName stem n := by
  have hdigit : ∀ k < 6, n % temporaryCount / Nat.pow 26 k % 26 = n / Nat.pow 26 k % 26 := by
    intro k hk
    have hcount : temporaryCount = 26 ^ k * 26 ^ (6 - k) := by
      rw [temporaryCount, ← Nat.pow_add, Nat.add_sub_cancel' hk.le]
    rw [hcount, Nat.pow_eq, Nat.mod_mul_right_div_self, Nat.mod_mod_of_dvd]
    exact Nat.pow_dvd_pow 26 (Nat.sub_pos_of_lt hk)
  rw [temporaryName, temporaryName]
  refine congrArg _ (List.map_congr_left fun k hk ↦ ?_)
  rw [hdigit k (by simpa using hk)]

theorem mod_pow_eq_of_digits {b j : Nat} (h : ∀ k < j, m / b ^ k % b = n / b ^ k % b) :
    m % b ^ j = n % b ^ j := by
  induction j with
  | zero => rw [Nat.pow_zero, Nat.mod_one, Nat.mod_one]
  | succ j ih =>
    rw [Nat.mod_pow_succ, Nat.mod_pow_succ, ih fun k hk ↦ h k (Nat.lt_succ_of_lt hk),
      h j (Nat.lt_succ_self j)]

theorem temporaryName_injOn (hm : m < temporaryCount) (hn : n < temporaryCount)
    (h : temporaryName stem m = temporaryName stem n) : m = n := by
  have hletters := List.map_inj_left.mp (List.append_cancel_left h)
  have hdigits : ∀ k < 6, m / 26 ^ k % 26 = n / 26 ^ k % 26 := fun k hk ↦
    temporaryLetters_inj (hletters k (by simpa using hk))
  have hmod := mod_pow_eq_of_digits hdigits
  rwa [← temporaryCount, Nat.mod_eq_of_lt hm, Nat.mod_eq_of_lt hn] at hmod

theorem freeTemporaryName_spec (h : ∃ n, temporaryName stem n ∉ taken) :
    freeTemporaryName stem taken ∉ taken ∧
      ∃ n, freeTemporaryName stem taken = temporaryName stem n := by
  obtain ⟨n, hn⟩ := h
  have hfound : ∃ k < taken.length + 1, temporaryName stem k ∉ taken := by
    by_cases hcount : temporaryCount ≤ taken.length + 1
    · refine ⟨n % temporaryCount, (Nat.mod_lt n (by decide)).trans_le hcount, ?_⟩
      rwa [temporaryName_mod]
    · -- the candidates are different and more than what is taken
      by_contra! hall
      have hnodup : ((List.range (taken.length + 1)).map (temporaryName stem)).Nodup := by
        refine List.nodup_range.map_on fun i hi j hj hij ↦ ?_
        rw [List.mem_range] at hi hj
        exact temporaryName_injOn (by omega) (by omega) hij
      have hsub : (List.range (taken.length + 1)).map (temporaryName stem) ⊆ taken := by
        intro name hname
        obtain ⟨k, hk, rfl⟩ := List.mem_map.mp hname
        exact hall k (List.mem_range.mp hk)
      have hle := (hnodup.subperm hsub).length_le
      rw [List.length_map, List.length_range] at hle
      omega
  obtain ⟨k, hk, hfree⟩ := hfound
  rw [freeTemporaryName]
  cases hfind : ((List.range (taken.length + 1)).map (temporaryName stem)).find?
      (!taken.contains ·) with
  | none =>
    rw [List.find?_eq_none] at hfind
    exact absurd (hfind _ (List.mem_map_of_mem (List.mem_range.mpr hk))) (by simpa using hfree)
  | some name =>
    obtain ⟨i, -, rfl⟩ := List.mem_map.mp (List.mem_of_find?_eq_some hfind)
    exact ⟨by simpa using List.find?_some hfind, i, rfl⟩

def temporaryStem : Bytes := Bytes.ofString ".tmp"

theorem isName_temporaryName (n : Nat) : IsName (temporaryName temporaryStem n) := by
  have hletters : ∀ b ∈ temporaryLetters, b ≠ Path.slash ∧ b ≠ 0 := by decide +kernel
  have hstem : ∀ b ∈ temporaryStem, b ≠ Path.slash ∧ b ≠ 0 := by decide +kernel
  have hbytes : ∀ b ∈ temporaryName temporaryStem n, b ≠ Path.slash ∧ b ≠ 0 := by
    intro b hb
    rcases List.mem_append.mp hb with hb | hb
    · exact hstem b hb
    · obtain ⟨k, -, rfl⟩ := List.mem_map.mp hb
      have hlt : n / Nat.pow 26 k % 26 < temporaryLetters.length :=
        length_temporaryLetters ▸ Nat.mod_lt _ (by decide)
      rw [List.getD_eq_getElem _ _ hlt]
      exact hletters _ (List.getElem_mem hlt)
  have hlength : (temporaryName temporaryStem n).length = 10 := by
    rw [temporaryName, List.length_append, List.length_map, List.length_reverse, List.length_range]
    rfl
  refine ⟨?_, ?_, ?_, fun h ↦ (hbytes _ h).1 rfl, fun h ↦ (hbytes _ h).2 rfl, ?_⟩
  · rintro h
    simp [h] at hlength
  · rintro h
    simp [h, dot] at hlength
  · rintro h
    simp [h, dotDot] at hlength
  · rw [hlength]
    decide

end MountSweep.Posix.FileSystem
