import Mathlib.Data.List.TakeWhile
import MountSweep.Proofs.Unicode.Folding
import MountSweep.Unicode.Character

namespace MountSweep.Unicode

variable {c d : Char} {cs core w : List Char}

theorem lowercase_runs_ascii : ∀ run ∈ LowercaseTable.runs,
    run.2.1 < 0x80 ∨ 0x80 ≤ (run.1 : Int) + run.2.2.2 ∨
      run.1 = run.2.1 ∧ (run.1 = 0x130 ∨ run.1 = 0x212A) := by
  decide +kernel

/-- A character of ASCII that is in no lower case of others than its own two cases. -/
structure IsPlain (d : Char) : Prop where
  ascii : d.toNat < 0x80
  pos : d.toNat ≠ 0
  ne_k : d ≠ 'k'

instance : DecidablePred IsPlain := fun d ↦
  decidable_of_iff (d.toNat < 0x80 ∧ d.toNat ≠ 0 ∧ d ≠ 'k')
    ⟨fun ⟨h, h', h''⟩ ↦ ⟨h, h', h''⟩, fun ⟨h, h', h''⟩ ↦ ⟨h, h', h''⟩⟩

theorem ascii_of_lower (h : ∀ d ∈ lower c, IsPlain d) : c.toNat < 0x80 := by
  by_contra hc
  by_cases hdotted : c.toNat == 0x130
  · rw [lower, if_neg hc, if_pos hdotted] at h
    exact absurd (h (Char.ofNat 0x307) (by simp)).ascii (by decide)
  rw [lower, if_neg hc, if_neg hdotted] at h
  have hd := h _ List.mem_cons_self
  have hm := toNat_ofNat_of_ne hd.pos
  have hascii := hd.ascii
  rcases shiftAt_cases c.toNat LowercaseTable.runs with h0 | ⟨run, hrun, hfirst, hlast, hshift⟩
  · omega
  · rcases lowercase_runs_ascii run hrun with hlow | hhigh | ⟨hone, heq | heq⟩
    · omega
    · omega
    · exact hdotted (by simp only [beq_iff_eq]; omega)
    · -- what is left is the Kelvin sign
      obtain rfl : c = kelvin := eq_ofNat_of_toNat (by omega)
      exact hd.ne_k (by decide +kernel)

theorem ascii_of_toLower (h : c.toLower.toNat < 0x80) : c.toNat < 0x80 := by
  by_contra hc
  have hupper : ¬ c.isUpper := fun hu ↦ by
    have hu := isUpper_iff_toNat.mp hu
    omega
  delta Char.toLower at h
  rw [dif_neg fun h ↦ hupper (by delta Char.isUpper; simpa using h)] at h
  exact hc h

theorem flatMap_lower_of_ascii (h : ∀ c ∈ cs, c.toNat < 0x80) :
    cs.flatMap lower = cs.map Char.toLower := by
  induction cs with
  | nil => rfl
  | cons c cs ih =>
    obtain ⟨hc, hcs⟩ := List.forall_mem_cons.mp h
    rw [List.flatMap_cons, List.map_cons, ih hcs, lower, if_pos hc, List.singleton_append]

/-- The lower case of a text is a plain word exactly if the text is that word in ASCII, capital
letters counting as small ones. -/
theorem flatMap_lower_eq_iff (hw : ∀ d ∈ w, IsPlain d) :
    cs.flatMap lower = w ↔ cs.map Char.toLower = w := by
  constructor
  · rintro rfl
    refine (flatMap_lower_of_ascii fun c hc ↦ ?_).symm
    exact ascii_of_lower fun d hd ↦ hw d (List.mem_flatMap_of_mem hc hd)
  · rintro rfl
    refine flatMap_lower_of_ascii fun c hc ↦ ?_
    exact ascii_of_toLower (hw _ (List.mem_map_of_mem hc)).ascii

/-- `core` is the part of a text that is left once the white space around it is gone. -/
def Trimmed (cs core : List Char) : Prop :=
  ∃ front back, cs = front ++ core ++ back ∧ (∀ c ∈ front, isSpace c) ∧ (∀ c ∈ back, isSpace c) ∧
    (∀ c, core.head? = some c → ¬ isSpace c) ∧ ∀ c, core.getLast? = some c → ¬ isSpace c

theorem dropWhile_eq_of_head? {p : Char → Bool} (h : ∀ c, cs.head? = some c → ¬ p c) :
    cs.dropWhile p = cs := by
  cases cs with
  | nil => rfl
  | cons c cs => exact List.dropWhile_cons_of_neg (h c rfl)

theorem not_of_head?_dropWhile {p : Char → Bool} (h : (cs.dropWhile p).head? = some c) : ¬ p c := by
  have hnot := List.head?_dropWhile_not p cs
  rw [h] at hnot
  simpa using hnot

theorem trimmed_iff : Trimmed cs core ↔ core = trim cs := by
  constructor
  · rintro ⟨front, back, rfl, hfront, hback, hhead, hlast⟩
    have hfront' :
        (front ++ core ++ back).dropWhile isSpace = (core ++ back).dropWhile isSpace := by
      rw [List.append_assoc, List.dropWhile_append_of_pos hfront]
    unfold trim
    rw [hfront']
    cases core with
    | nil =>
      have hnil : back.dropWhile isSpace = [] := List.dropWhile_eq_nil_iff.mpr hback
      rw [List.nil_append, hnil]
      rfl
    | cons c core =>
      have hback' : ∀ c ∈ back.reverse, isSpace c := fun c hc ↦ hback c (List.mem_reverse.mp hc)
      have hlast' : ∀ d, (c :: core).reverse.head? = some d → ¬ isSpace d := fun d hd ↦
        hlast d (by rwa [List.head?_reverse] at hd)
      have hcore : (c :: core ++ back).dropWhile isSpace = c :: core ++ back :=
        dropWhile_eq_of_head? hhead
      rw [hcore, List.reverse_append, List.dropWhile_append_of_pos hback',
        dropWhile_eq_of_head? hlast', List.reverse_reverse]
  · rintro rfl
    have hback : trim cs ++ ((cs.dropWhile isSpace).reverse.takeWhile isSpace).reverse =
        cs.dropWhile isSpace := by
      rw [trim, ← List.reverse_append, List.takeWhile_append_dropWhile, List.reverse_reverse]
    refine ⟨cs.takeWhile isSpace, ((cs.dropWhile isSpace).reverse.takeWhile isSpace).reverse, ?_,
      fun c hc ↦ List.mem_takeWhile_imp hc, fun c hc ↦ ?_, fun c hc ↦ ?_, fun c hc ↦ ?_⟩
    · rw [List.append_assoc, hback, List.takeWhile_append_dropWhile]
    · exact List.mem_takeWhile_imp (List.mem_reverse.mp hc)
    · have hrest : (cs.dropWhile isSpace).head? = some c := by
        rw [← hback, List.head?_append, hc]
        rfl
      exact not_of_head?_dropWhile hrest
    · rw [trim, List.getLast?_reverse] at hc
      exact not_of_head?_dropWhile hc

end MountSweep.Unicode
