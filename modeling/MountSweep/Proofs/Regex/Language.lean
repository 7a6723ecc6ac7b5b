import Mathlib.Data.List.Basic
import MountSweep.Regex.Basic

namespace MountSweep.Regex

/-- A set of texts, each taken with the character before it and the one after it. -/
abbrev Language := Option Char → List Char → Option Char → Prop

namespace Language

def unit : Language := fun _ t _ ↦ t = []

/-- A text of one language followed by a text of another; each is a neighbour of the other. -/
def followedBy (L M : Language) : Language := fun b t a ↦
  ∃ u v, t = u ++ v ∧ L b u (v.head?.or a) ∧ M (u.getLast?.or b) v a

def either (L M : Language) : Language := fun b t a ↦ L b t a ∨ M b t a

def times (L : Language) : ℕ → Language
  | 0 => unit
  | n + 1 => L.followedBy (L.times n)

variable (L M N : Language)

@[simp] theorem unit_followedBy : unit.followedBy M = M := by
  funext b t a
  simp [followedBy, unit]

@[simp] theorem followedBy_unit : L.followedBy unit = L := by
  funext b t a
  simp [followedBy, unit]

theorem followedBy_assoc :
    (L.followedBy M).followedBy N = L.followedBy (M.followedBy N) := by
  funext b t a
  refine propext ⟨?_, ?_⟩
  · rintro ⟨_, w, rfl, ⟨u, v, rfl, hu, hv⟩, hw⟩
    refine ⟨u, v ++ w, List.append_assoc .., ?_, v, w, rfl, hv, ?_⟩
    · rwa [List.head?_append, Option.or_assoc]
    · rwa [List.getLast?_append, Option.or_assoc] at hw
  · rintro ⟨u, _, rfl, hu, v, w, rfl, hv, hw⟩
    refine ⟨u ++ v, w, (List.append_assoc ..).symm, ⟨u, v, rfl, ?_, hv⟩, ?_⟩
    · rwa [List.head?_append, Option.or_assoc] at hu
    · rwa [List.getLast?_append, Option.or_assoc]

theorem either_followedBy :
    (L.either M).followedBy N = (L.followedBy N).either (M.followedBy N) := by
  funext b t a
  refine propext ⟨?_, ?_⟩
  · rintro ⟨u, v, rfl, hu | hu, hv⟩
    · exact .inl ⟨u, v, rfl, hu, hv⟩
    · exact .inr ⟨u, v, rfl, hu, hv⟩
  · rintro (⟨u, v, rfl, hu, hv⟩ | ⟨u, v, rfl, hu, hv⟩)
    · exact ⟨u, v, rfl, .inl hu, hv⟩
    · exact ⟨u, v, rfl, .inr hu, hv⟩

theorem followedBy_either :
    L.followedBy (M.either N) = (L.followedBy M).either (L.followedBy N) := by
  funext b t a
  refine propext ⟨?_, ?_⟩
  · rintro ⟨u, v, rfl, hu, hv | hv⟩
    · exact .inl ⟨u, v, rfl, hu, hv⟩
    · exact .inr ⟨u, v, rfl, hu, hv⟩
  · rintro (⟨u, v, rfl, hu, hv⟩ | ⟨u, v, rfl, hu, hv⟩)
    · exact ⟨u, v, rfl, hu, .inl hv⟩
    · exact ⟨u, v, rfl, hu, .inr hv⟩

/-- Between `min` and `max` texts of a language one after another, or at least `min`. A greatest
number below the least one counts as equal to it. -/
def repeated (min : ℕ) (max : Option ℕ) : Language := fun b t a ↦
  ∃ n, min ≤ n ∧ (∀ m ∈ max, n ≤ min + (m - min)) ∧ L.times n b t a

theorem repeated_succ (min : ℕ) (max : Option ℕ) :
    L.repeated (min + 1) (max.map (· + 1)) = L.followedBy (L.repeated min max) := by
  funext b t a
  refine propext ⟨?_, ?_⟩
  · rintro ⟨_ | n, hmin, hmax, h⟩
    · omega
    · obtain ⟨u, v, rfl, hu, hv⟩ := h
      refine ⟨u, v, rfl, hu, n, by omega, fun m hm ↦ ?_, hv⟩
      have := hmax (m + 1) (by simpa using hm)
      omega
  · rintro ⟨u, v, rfl, hu, n, hmin, hmax, hv⟩
    refine ⟨n + 1, by omega, fun m hm ↦ ?_, u, v, rfl, hu, hv⟩
    obtain ⟨m, hm', rfl⟩ := Option.map_eq_some_iff.mp hm
    have := hmax m hm'
    omega

theorem repeated_zero (max : Option ℕ) :
    L.repeated 0 (max.map (· + 1)) = (L.followedBy (L.repeated 0 max)).either unit := by
  funext b t a
  refine propext ⟨?_, ?_⟩
  · rintro ⟨_ | n, -, hmax, h⟩
    · exact .inr h
    · obtain ⟨u, v, rfl, hu, hv⟩ := h
      refine .inl ⟨u, v, rfl, hu, n, by omega, fun m hm ↦ ?_, hv⟩
      have := hmax (m + 1) (by simpa using hm)
      omega
  · rintro (⟨u, v, rfl, hu, n, -, hmax, hv⟩ | h)
    · refine ⟨n + 1, by omega, fun m hm ↦ ?_, u, v, rfl, hu, hv⟩
      obtain ⟨m, hm', rfl⟩ := Option.map_eq_some_iff.mp hm
      have := hmax m hm'
      omega
    · exact ⟨0, Nat.le_refl 0, by simp, h⟩

theorem repeated_zero_zero : L.repeated 0 (some 0) = unit := by
  funext b t a
  refine propext ⟨?_, fun h ↦ ⟨0, Nat.le_refl 0, by simp, h⟩⟩
  rintro ⟨n, -, hmax, h⟩
  obtain rfl : n = 0 := by simpa using hmax 0 rfl
  exact h

theorem repeated_some (min max : ℕ) :
    L.repeated min (some max) = L.repeated min (some (min + (max - min))) := by
  funext b t a
  simp [repeated]

end Language

def language : Regex → Language
  | empty => .unit
  | oneOf s => fun _ t _ ↦ ∃ c, t = [c] ∧ s.contains c
  | look l => fun b t a ↦ t = [] ∧ l.holds ⟨b, a⟩
  | seq r s => r.language.followedBy s.language
  | alt r s => r.language.either s.language
  | iterate r min max _ => r.language.repeated min max
  | again r _ => r.language.repeated 0 none

def Way.language : Way → Language
  | [] => .unit
  | r :: rest => r.language.followedBy (Way.language rest)

theorem look_followedBy {l : Look} {M : Language} {b a : Option Char} {t : List Char} :
    (look l).language.followedBy M b t a ↔ l.holds ⟨b, t.head?.or a⟩ ∧ M b t a := by
  refine ⟨?_, fun ⟨hl, hM⟩ ↦ ⟨[], t, rfl, ⟨rfl, hl⟩, hM⟩⟩
  rintro ⟨_, v, rfl, ⟨rfl, hl⟩, hM⟩
  exact ⟨hl, hM⟩

theorem followedBy_look {l : Look} {M : Language} {b a : Option Char} {t : List Char} :
    M.followedBy (look l).language b t a ↔ M b t a ∧ l.holds ⟨t.getLast?.or b, a⟩ := by
  refine ⟨?_, fun ⟨hM, hl⟩ ↦ ⟨t, [], by simp, hM, rfl, hl⟩⟩
  rintro ⟨u, _, rfl, hM, rfl, hl⟩
  rw [List.append_nil]
  exact ⟨hM, hl⟩

theorem oneOf_followedBy {s : CharSet} {M : Language} {b a : Option Char} {t : List Char} :
    (oneOf s).language.followedBy M b t a ↔
      ∃ c u, t = c :: u ∧ s.contains c ∧ M (some c) u a := by
  refine ⟨?_, fun ⟨c, u, ht, hc, hM⟩ ↦ ⟨[c], u, ht, ⟨c, rfl, hc⟩, hM⟩⟩
  rintro ⟨_, u, rfl, ⟨c, rfl, hc⟩, hM⟩
  exact ⟨c, u, rfl, hc, hM⟩

theorem times_oneOf {s : CharSet} {n : ℕ} {b a : Option Char} {t : List Char} :
    (oneOf s).language.times n b t a ↔ t.length = n ∧ ∀ c ∈ t, s.contains c := by
  induction n generalizing b t with
  | zero => simp +contextual [Language.times, Language.unit, List.length_eq_zero_iff]
  | succ n ih =>
    rw [Language.times, oneOf_followedBy]
    cases t with
    | nil => simp
    | cons c t =>
      rw [List.forall_mem_cons, List.length_cons]
      constructor
      · rintro ⟨_, _, h, hc, ht⟩
        obtain ⟨rfl, rfl⟩ := List.cons_eq_cons.mp h
        obtain ⟨rfl, hall⟩ := ih.mp ht
        exact ⟨rfl, hc, hall⟩
      · rintro ⟨hlen, hc, hall⟩
        exact ⟨c, t, rfl, hc, ih.mpr ⟨by omega, hall⟩⟩

theorem language_seqs (rs : List Regex) : (seqs rs).language = Way.language rs := by
  induction rs with
  | nil => rfl
  | cons r rest ih =>
    cases rest with
    | nil => simp [seqs, Way.language]
    | cons r' rest => simp only [seqs, language, ih]; rfl

theorem Way.language_append (rs ss : Way) :
    Way.language (rs ++ ss) = (Way.language rs).followedBy (Way.language ss) := by
  induction rs with
  | nil => simp [Way.language]
  | cons r rest ih => simp only [List.cons_append, Way.language, ih, Language.followedBy_assoc]

theorem language_alts {rs : List Regex} {b a : Option Char} {t : List Char} :
    (alts rs).language b t a ↔ ∃ r ∈ rs, r.language b t a := by
  induction rs with
  | nil => simp [alts, language, CharSet.contains]
  | cons r rest ih =>
    cases rest with
    | nil => simp [alts]
    | cons r' rest =>
      simp only [List.mem_cons (b := r), or_and_right, exists_or, exists_eq_left, ← ih]
      rfl

end MountSweep.Regex
