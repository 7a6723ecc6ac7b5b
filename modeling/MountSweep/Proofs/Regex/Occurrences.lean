import MountSweep.Proofs.Regex.Matcher
import MountSweep.Regex.Search

namespace MountSweep.Regex

/-- A text of a language stands in `cs` between `pre` and `post`. -/
def Language.Occurs (L : Language) (cs pre m post : List Char) : Prop :=
  cs = pre ++ m ++ post ∧ L pre.getLast? m post.head?

def Language.Absent (L : Language) (cs : List Char) : Prop :=
  ∀ pre m post, ¬ L.Occurs cs pre m post

/-- Of the texts of a language that stand in `cs`, `m` stands first. -/
def Language.First (L : Language) (cs m : List Char) : Prop :=
  ∃ pre post, L.Occurs cs pre m post ∧
    ∀ pre' m' post', L.Occurs cs pre' m' post' → pre.length ≤ pre'.length

/-- From one place on there is at most one text of the language. -/
def Language.Unambiguous (L : Language) : Prop :=
  ∀ b m u m' u', m ++ u = m' ++ u' → L b m u.head? → L b m' u'.head? → m = m'

theorem getLast?_cons_or (c : Char) (cs : List Char) (b : Option Char) :
    (c :: cs).getLast?.or b = cs.getLast?.or (some c) := by
  rw [List.getLast?_cons]
  cases cs.getLast? <;> rfl

variable {r : Regex} {before : Option Char} {cs m : List Char}

theorem findFrom?_eq_none (h : r.findFrom? before cs = none) :
    ∀ pre rest, cs = pre ++ rest → r.matchLength? (pre.getLast?.or before) rest = none := by
  induction cs generalizing before with
  | nil =>
    intro pre rest hcs
    obtain ⟨rfl, rfl⟩ := List.append_eq_nil_iff.mp hcs.symm
    simpa [findFrom?] using h
  | cons c cs ih =>
    rw [findFrom?] at h
    split at h
    · cases h
    · next hnone =>
      rintro (_ | ⟨d, pre⟩) rest hcs
      · rw [List.nil_append] at hcs
        rwa [← hcs]
      · obtain ⟨rfl, hrest⟩ := List.cons_eq_cons.mp hcs
        rw [getLast?_cons_or]
        exact ih h pre rest hrest

theorem findFrom?_eq_some (h : r.findFrom? before cs = some m) :
    ∃ pre post, cs = pre ++ m ++ post ∧
      r.matchLength? (pre.getLast?.or before) (m ++ post) = some m.length ∧
      ∀ pre' rest, cs = pre' ++ rest → pre'.length < pre.length →
        r.matchLength? (pre'.getLast?.or before) rest = none := by
  induction cs generalizing before with
  | nil =>
    obtain ⟨n, hn, rfl⟩ := Option.map_eq_some_iff.mp h
    obtain rfl : n = 0 := by simpa using matchLength?_le hn
    exact ⟨[], [], rfl, by simpa using hn, by simp⟩
  | cons c cs ih =>
    rw [findFrom?] at h
    split at h
    · next n hn =>
      obtain rfl := Option.some.inj h
      have hlen := List.length_take_of_le (matchLength?_le hn)
      exact ⟨[], (c :: cs).drop n, by simp, by simpa [hlen] using hn, by simp⟩
    · next hnone =>
      obtain ⟨pre, post, rfl, hm, hfirst⟩ := ih h
      refine ⟨c :: pre, post, rfl, by rwa [getLast?_cons_or], ?_⟩
      rintro (_ | ⟨d, pre'⟩) rest hcs hlt
      · rw [List.nil_append] at hcs
        rwa [← hcs]
      · obtain ⟨rfl, hrest⟩ := List.cons_eq_cons.mp hcs
        rw [getLast?_cons_or]
        exact hfirst pre' rest hrest (by simpa using hlt)

theorem matchLength?_isSome_of_occurs (hr : r.isPlain) {pre post : List Char}
    (h : r.language.Occurs cs pre m post) :
    ∃ rest, cs = pre ++ rest ∧ (r.matchLength? (pre.getLast?.or none) rest).isSome := by
  obtain ⟨hcs, hl⟩ := h
  refine ⟨m ++ post, by simpa using hcs, ?_⟩
  rw [Option.or_none]
  exact isSome_matchLength? hr hl

theorem find?_eq_none_iff (hr : r.isPlain) : r.find? cs = none ↔ r.language.Absent cs := by
  refine ⟨fun h pre m post ho ↦ ?_, fun h ↦ ?_⟩
  · obtain ⟨rest, hcs, hsome⟩ := matchLength?_isSome_of_occurs hr ho
    rw [findFrom?_eq_none h pre rest hcs] at hsome
    cases hsome
  · cases hfind : r.find? cs with
    | none => rfl
    | some m =>
      obtain ⟨pre, post, hcs, hm, -⟩ := findFrom?_eq_some hfind
      obtain ⟨t, u, htu, hlen, hl⟩ := language_of_matchLength? hr hm
      obtain ⟨rfl, rfl⟩ := List.append_inj htu hlen.symm
      exact absurd ⟨hcs, by simpa using hl⟩ (h pre m post)

theorem first_of_find? (hr : r.isPlain) (h : r.find? cs = some m) : r.language.First cs m := by
  obtain ⟨pre, post, hcs, hm, hfirst⟩ := findFrom?_eq_some h
  obtain ⟨t, u, htu, hlen, hl⟩ := language_of_matchLength? hr hm
  obtain ⟨rfl, rfl⟩ := List.append_inj htu hlen.symm
  refine ⟨pre, post, ⟨hcs, by simpa using hl⟩, fun pre' m' post' ho ↦ ?_⟩
  obtain ⟨rest, hcs', hsome⟩ := matchLength?_isSome_of_occurs hr ho
  by_contra hlt
  rw [hfirst pre' rest hcs' (by omega)] at hsome
  cases hsome

theorem Language.First.unique {L : Language} (hL : L.Unambiguous) {m' : List Char}
    (h : L.First cs m) (h' : L.First cs m') : m = m' := by
  obtain ⟨pre, post, ho, hfirst⟩ := h
  obtain ⟨pre', post', ho', hfirst'⟩ := h'
  have hlen : pre.length = pre'.length :=
    Nat.le_antisymm (hfirst _ _ _ ho') (hfirst' _ _ _ ho)
  obtain ⟨hcs, hl⟩ := ho
  obtain ⟨hcs', hl'⟩ := ho'
  rw [List.append_assoc] at hcs hcs'
  obtain ⟨rfl, hrest⟩ := List.append_inj (hcs.symm.trans hcs') hlen
  exact hL _ _ _ _ _ hrest hl hl'

theorem find?_eq_some_iff (hr : r.isPlain) (hu : r.language.Unambiguous) :
    r.find? cs = some m ↔ r.language.First cs m := by
  refine ⟨first_of_find? hr, fun h ↦ ?_⟩
  cases hfind : r.find? cs with
  | none =>
    obtain ⟨pre, post, ho, -⟩ := h
    exact absurd ho ((find?_eq_none_iff hr).mp hfind pre m post)
  | some m' => rw [(first_of_find? hr hfind).unique hu h]

end MountSweep.Regex
