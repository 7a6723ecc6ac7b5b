import Mathlib.Data.List.TakeWhile
import MountSweep.Proofs.Regex.Language

namespace MountSweep.Regex

/-- Whether the search cannot come to one place in an expression twice between two characters:
repetitions take a character in each pass, and of two alternatives at most one matches nothing. -/
def isPlain : Regex → Bool
  | empty | oneOf _ | look _ => true
  | seq a b => a.isPlain && b.isPlain
  | alt a b => a.isPlain && b.isPlain && !(a.nullable && b.nullable)
  | iterate r _ _ _ | again r _ => r.isPlain && !r.nullable

def Move.language : Move → Language
  | done => .unit
  | take s rest => fun _ t a ↦ ∃ c u, t = c :: u ∧ s.contains c ∧ Way.language rest (some c) u a

def Move.IsPlain : Move → Prop
  | done => True
  | take _ rest => ∀ r ∈ rest, r.isPlain

/-- At a gap a search has moves into a language, whatever it has met before. If `full`, they are
all the moves into it. -/
def Yields (g : Gap) (full : Bool) (search : Search) (L : Language) : Prop :=
  ∃ ms, (∀ met, search met = (ms, met)) ∧ (∀ m ∈ ms, m.IsPlain) ∧
    (∀ t a, t.head?.or a = g.after → (∃ m ∈ ms, m.language g.before t a) → L g.before t a) ∧
    (full → ∀ t a, t.head?.or a = g.after → L g.before t a → ∃ m ∈ ms, m.language g.before t a)

variable {g : Gap} {F F' : Bool} {L M : Language} {search search' last : Search} {rest : Way}

theorem yields_nowhere : Yields g false nowhere L :=
  ⟨[], fun _ ↦ rfl, by simp, by simp, by simp⟩

theorem yields_done : Yields g true (return [.done]) .unit :=
  ⟨[.done], fun _ ↦ rfl, by simp [Move.IsPlain], by simp [Move.language], by simp [Move.language]⟩

theorem yields_take {s : CharSet} (hrest : ∀ r ∈ rest, r.isPlain) :
    Yields g true (return [.take s rest]) ((oneOf s).language.followedBy (Way.language rest)) := by
  refine ⟨[.take s rest], fun _ ↦ rfl, by simpa [Move.IsPlain] using hrest, ?_, ?_⟩
  · intro t a _ h
    simpa [oneOf_followedBy, Move.language] using h
  · intro _ t a _ h
    simpa [oneOf_followedBy, Move.language] using h

theorem Yields.weaken (h : Yields g F search L) (hF : F' → F) : Yields g F' search L := by
  obtain ⟨ms, hrun, hplain, hsound, hfull⟩ := h
  exact ⟨ms, hrun, hplain, hsound, fun hF' ↦ hfull (hF hF')⟩

theorem Yields.both (h : Yields g F search L) (h' : Yields g F' search' M) (inOrder : Bool) :
    Yields g (F && F') (both inOrder search search') (L.either M) := by
  obtain ⟨ms, hrun, hplain, hsound, hfull⟩ := h
  obtain ⟨ms', hrun', hplain', hsound', hfull'⟩ := h'
  refine ⟨if inOrder then ms ++ ms' else ms' ++ ms, fun met ↦ ?_, ?_, ?_, ?_⟩
  · cases inOrder <;> simp [Regex.both, bind, StateT.bind, hrun met, hrun' met] <;> rfl
  · intro m hm
    have hm : m ∈ ms ∨ m ∈ ms' := by cases inOrder <;> simpa [or_comm] using hm
    exact hm.elim (hplain m) (hplain' m)
  · rintro t a hg ⟨m, hm, hl⟩
    have hm : m ∈ ms ∨ m ∈ ms' := by cases inOrder <;> simpa [or_comm] using hm
    exact hm.imp (fun hm ↦ hsound t a hg ⟨m, hm, hl⟩) fun hm ↦ hsound' t a hg ⟨m, hm, hl⟩
  · intro hF t a hg hl
    obtain ⟨hF, hF'⟩ := Bool.and_eq_true_iff.mp hF
    obtain ⟨m, hm, hl⟩ : ∃ m, (m ∈ ms ∨ m ∈ ms') ∧ m.language g.before t a := by
      rcases hl with hl | hl
      · obtain ⟨m, hm, hl⟩ := hfull hF t a hg hl
        exact ⟨m, .inl hm, hl⟩
      · obtain ⟨m, hm, hl⟩ := hfull' hF' t a hg hl
        exact ⟨m, .inr hm, hl⟩
    exact ⟨m, by cases inOrder <;> simpa [or_comm] using hm, hl⟩

theorem once_unchecked (way : Way) (search : Search) : once false way search = search := rfl

theorem language_again (r : Regex) (greedy : Bool) (rest : Way) :
    Way.language (again r greedy :: rest) =
      (r.language.followedBy (Way.language (again r greedy :: rest))).either
        (Way.language rest) := by
  conv_lhs =>
    rw [Way.language, language, show (none : Option ℕ) = none.map (· + 1) from rfl,
      Language.repeated_zero, Language.either_followedBy, Language.followedBy_assoc,
      Language.unit_followedBy]
  rfl

/-- The search for the moves of an expression that takes a character, and of what comes after it:
the moves of the latter do not matter. -/
def BodyYields (g : Gap) (r : Regex) : Prop :=
  ∀ {rest : Way} {last : Search} {F : Bool}, (∀ s ∈ rest, s.isPlain) →
    Yields g F last (Way.language rest) →
    Yields g true (front g false r rest last) (r.language.followedBy (Way.language rest))

namespace BodyYields

variable {r : Regex} {greedy : Bool}

theorem loop (hbody : BodyYields g r) (hway : ∀ s ∈ again r greedy :: rest, s.isPlain)
    (hlast : Yields g F last (Way.language rest)) :
    Yields g F (both greedy (front g false r (again r greedy :: rest) nowhere) last)
      (Way.language (again r greedy :: rest)) := by
  rw [language_again]
  exact (hbody hway yields_nowhere).both hlast greedy

theorem passes (left : ℕ → Regex) (hbody : BodyYields g r) (hrest : ∀ s ∈ rest, s.isPlain)
    (hleft : ∀ n, (left n).isPlain)
    (hmore : ∀ n, (left (n + 1)).language = r.language.followedBy (left n).language)
    (hlast : Yields g F last (Way.language (left 0 :: rest))) (n : ℕ) :
    Yields g (F || n ≠ 0) (passes (front g false r) left rest last n)
      (Way.language (left n :: rest)) := by
  induction n with
  | zero => exact hlast.weaken (by simp)
  | succ n ih =>
    have h := hbody (List.forall_mem_cons.mpr ⟨hleft n, hrest⟩) ih
    rw [Way.language, hmore, Language.followedBy_assoc]
    exact h.weaken (by simp)

theorem options (left : ℕ → Regex) (greedy : Bool) (hbody : BodyYields g r)
    (hrest : ∀ s ∈ rest, s.isPlain) (hleft : ∀ n, (left n).isPlain)
    (hnone : (left 0).language = .unit)
    (hmore : ∀ n, (left (n + 1)).language = (r.language.followedBy (left n).language).either .unit)
    (hlast : Yields g F last (Way.language rest)) (n : ℕ) :
    Yields g F (options (front g false r) left greedy false rest last n)
      (Way.language (left n :: rest)) := by
  induction n with
  | zero => rwa [Way.language, hnone, Language.unit_followedBy]
  | succ n ih =>
    have h := hbody (List.forall_mem_cons.mpr ⟨hleft n, hrest⟩) ih
    rw [Way.language, hmore, Language.either_followedBy, Language.followedBy_assoc,
      Language.unit_followedBy]
    exact (h.both hlast greedy).weaken (by simp)

theorem iterate (hbody : BodyYields g r) (hr : r.isPlain) (hnull : r.nullable = false)
    (hrest : ∀ s ∈ rest, s.isPlain) (hlast : Yields g F last (Way.language rest)) (min : ℕ)
    (max : Option ℕ) :
    Yields g (F || min ≠ 0) (front g false (iterate r min max greedy) rest last)
      (Way.language (iterate r min max greedy :: rest)) := by
  have hplain (n : ℕ) (m : Option ℕ) : (Regex.iterate r n m greedy).isPlain := by
    simp [isPlain, hr, hnull]
  have hagain : (again r greedy).isPlain := by simp [isPlain, hr, hnull]
  simp only [front, hnull, Bool.or_false, once_unchecked]
  cases max with
  | none =>
    have hway : ∀ s ∈ again r greedy :: rest, s.isPlain :=
      List.forall_mem_cons.mpr ⟨hagain, hrest⟩
    have hloop := hbody.loop hway hlast
    cases min with
    | zero =>
      have h := (hbody hway hloop).both hlast greedy
      rw [← language_again] at h
      exact h.weaken (by simp)
    | succ n =>
      refine (hbody.passes _ hrest ?_ ?_ hloop (n + 1)).weaken (by simp)
      · rintro (_ | n)
        · exact hagain
        · exact hplain _ _
      · rintro (_ | n)
        · exact Language.repeated_succ _ 0 none
        · exact Language.repeated_succ _ (n + 1) none
  | some max =>
    have hopt := hbody.options (fun n ↦ Regex.iterate r 0 (some n) greedy) greedy hrest
      (fun n ↦ hplain _ _) (Language.repeated_zero_zero _)
      (fun n ↦ Language.repeated_zero _ (some n)) hlast (max - min)
    have h := hbody.passes (fun n ↦ Regex.iterate r n (some (n + (max - min))) greedy)
      hrest (fun n ↦ hplain _ _) (fun n ↦ ?_) (by simpa using hopt) min
    · rw [Way.language, language, Language.repeated_some]
      exact h
    · rw [language, Nat.add_right_comm]
      exact Language.repeated_succ _ n (some (n + (max - min)))

end BodyYields

/-- The search for the moves of a plain expression and of what comes after it. Where the expression
takes a character, the moves of what comes after it do not matter. -/
theorem front_yields {r : Regex} (hr : r.isPlain) :
    ∀ {rest last F}, (∀ s ∈ rest, s.isPlain) → Yields g F last (Way.language rest) →
      Yields g (F || !r.nullable) (front g false r rest last)
        (r.language.followedBy (Way.language rest)) := by
  induction r with
  | empty =>
    intro rest last F _ hlast
    simpa [front, language, nullable] using hlast
  | oneOf s =>
    intro rest last F hrest _
    simpa [front, nullable] using yields_take hrest
  | look l =>
    intro rest last F _ hlast
    have hheld {t : List Char} {a : Option Char} (hg : t.head?.or a = g.after) :
        (look l).language.followedBy (Way.language rest) g.before t a ↔
          l.holds g ∧ Way.language rest g.before t a := by
      rw [look_followedBy, hg]
    obtain ⟨ms, hrun, hplain, hsound, hfull⟩ := hlast
    by_cases hl : l.holds g
    · refine ⟨ms, fun met ↦ by simp [front, hl, hrun], hplain, ?_, ?_⟩
      · exact fun t a hg h ↦ (hheld hg).mpr ⟨hl, hsound t a hg h⟩
      · exact fun hF t a hg h ↦ hfull (by simpa [nullable] using hF) t a hg ((hheld hg).mp h).2
    · refine ⟨[], fun met ↦ by simp [front, hl]; rfl, by simp, by simp, ?_⟩
      exact fun _ t a hg h ↦ absurd ((hheld hg).mp h).1 hl
  | seq a b iha ihb =>
    intro rest last F hrest hlast
    obtain ⟨ha, hb⟩ := Bool.and_eq_true_iff.mp hr
    have hlast := iha ha (List.forall_mem_cons.mpr ⟨hb, hrest⟩) (ihb hb hrest hlast)
    rw [language, Language.followedBy_assoc]
    exact hlast.weaken (by grind [nullable])
  | alt a b iha ihb =>
    intro rest last F hrest hlast
    simp only [isPlain, Bool.and_eq_true, Bool.not_eq_true'] at hr
    obtain ⟨⟨ha, hb⟩, hnull⟩ := hr
    rw [front, hnull, once_unchecked, once_unchecked, language, Language.either_followedBy]
    refine ((iha ha hrest hlast).both (ihb hb hrest hlast) true).weaken ?_
    cases F <;> simp [nullable]
  | again r greedy ih =>
    intro rest last F hrest hlast
    simp only [isPlain, Bool.and_eq_true, Bool.not_eq_true'] at hr
    have hway : ∀ s ∈ again r greedy :: rest, s.isPlain :=
      List.forall_mem_cons.mpr ⟨by simp [isPlain, hr], hrest⟩
    have hbody : BodyYields g r := fun hrest hlast ↦ by simpa [hr.2] using ih hr.1 hrest hlast
    simp only [front, hr.2, Bool.or_false, once_unchecked]
    exact (hbody.loop hway hlast).weaken (by simp [nullable])
  | iterate r min max greedy ih =>
    intro rest last F hrest hlast
    simp only [isPlain, Bool.and_eq_true, Bool.not_eq_true'] at hr
    have hbody : BodyYields g r := fun hrest hlast ↦ by simpa [hr.2] using ih hr.1 hrest hlast
    exact (hbody.iterate hr.1 hr.2 hrest hlast min max).weaken (by simp [nullable, hr.2])

theorem isLoop_of_isPlain {r : Regex} (hr : r.isPlain) : r.isLoop = false := by
  cases r <;> simp_all [isPlain, isLoop]

theorem frontAll_yields {way : Way} (hway : ∀ r ∈ way, r.isPlain) :
    Yields g true (frontAll g way) (Way.language way) := by
  induction way with
  | nil => exact yields_done
  | cons r rest ih =>
    obtain ⟨hr, hrest⟩ := List.forall_mem_cons.mp hway
    have hloop : rest.any isLoop = false :=
      List.any_eq_false.mpr fun s hs ↦ by simp [isLoop_of_isPlain (hrest s hs)]
    rw [frontAll, hloop]
    exact (front_yields hr hrest (ih hrest)).weaken (by simp)

def waysLanguage (ways : List Way) : Language := fun b t a ↦
  ∃ way ∈ ways, Way.language way b t a

theorem waysLanguage_cons (way : Way) (ways : List Way) :
    waysLanguage (way :: ways) = (Way.language way).either (waysLanguage ways) := by
  funext b t a
  simp [waysLanguage, Language.either]

theorem frontEach_yields {ways : List Way} (hways : ∀ way ∈ ways, ∀ r ∈ way, r.isPlain) :
    Yields g true (frontEach g ways) (waysLanguage ways) := by
  induction ways with
  | nil => exact ⟨[], fun _ ↦ rfl, by simp, by simp, by simp [waysLanguage]⟩
  | cons way ways ih =>
    obtain ⟨hway, hways⟩ := List.forall_mem_cons.mp hways
    rw [waysLanguage_cons]
    exact (frontAll_yields hway).both (ih hways) true

theorem moves_isPlain {ways : List Way} (hways : ∀ way ∈ ways, ∀ r ∈ way, r.isPlain) :
    ∀ m ∈ moves g ways, m.IsPlain := by
  obtain ⟨ms, hrun, hplain, -⟩ := frontEach_yields (g := g) hways
  rwa [moves, hrun]

theorem exists_moves {ways : List Way} (hways : ∀ way ∈ ways, ∀ r ∈ way, r.isPlain)
    {t : List Char} {a : Option Char} (hg : t.head?.or a = g.after) :
    (∃ m ∈ moves g ways, m.language g.before t a) ↔ waysLanguage ways g.before t a := by
  obtain ⟨ms, hrun, -, hsound, hfull⟩ := frontEach_yields (g := g) hways
  rw [moves, hrun]
  exact ⟨hsound t a hg, hfull rfl t a hg⟩

theorem mem_distinct {way : Way} {ways : List Way} : way ∈ distinct ways ↔ way ∈ ways := by
  unfold distinct
  split <;> simp

def waysAfter (ms : List Move) (c : Char) : List Way :=
  (ms.takeWhile (· ≠ .done)).filterMap fun
    | .done => none
    | .take s k => if s.contains c then some k else none

theorem exists_of_mem_waysAfter {ms : List Move} {c : Char} {way : Way} (h : way ∈ waysAfter ms c) :
    ∃ s, .take s way ∈ ms ∧ s.contains c := by
  obtain ⟨m, hm, hway⟩ := List.mem_filterMap.mp h
  have hm := (List.takeWhile_subset _) hm
  cases m with
  | done => simp at hway
  | take s k =>
    obtain ⟨hc, rfl⟩ : s.contains c ∧ k = way := by simpa using hway
    exact ⟨s, hm, hc⟩

theorem mem_waysAfter {ms : List Move} {c : Char} {s : CharSet} {way : Way} (hdone : .done ∉ ms)
    (h : .take s way ∈ ms) (hc : s.contains c) : way ∈ waysAfter ms c := by
  have hall : ms.takeWhile (· ≠ .done) = ms :=
    List.takeWhile_eq_self_iff.mpr fun m hm ↦ by
      have hne : m ≠ .done := ne_of_mem_of_not_mem hm hdone
      simpa using hne
  rw [waysAfter, hall]
  exact List.mem_filterMap.mpr ⟨_, h, by simp [hc]⟩

theorem distinct_eq_nil {ways : List Way} : distinct ways = [] ↔ ways = [] := by
  simp only [List.eq_nil_iff_forall_not_mem, mem_distinct]

/-- The length of the match found so far once the moves at a place are known. -/
def bestSoFar (ms : List Move) (taken : ℕ) (best : Option ℕ) : Option ℕ :=
  if .done ∈ ms then some taken else best

theorem run_nil (ways : List Way) (before : Option Char) (taken : ℕ) (best : Option ℕ) :
    run ways before taken best [] = bestSoFar (moves ⟨before, none⟩ ways) taken best := by
  simp [run, bestSoFar]

theorem run_cons (ways : List Way) (before : Option Char) (taken : ℕ) (best : Option ℕ) (c : Char)
    (rest : List Char) :
    run ways before taken best (c :: rest) =
      if waysAfter (moves ⟨before, some c⟩ ways) c = [] then
        bestSoFar (moves ⟨before, some c⟩ ways) taken best
      else
        run (distinct (waysAfter (moves ⟨before, some c⟩ ways) c)) (some c) (taken + 1)
          (bestSoFar (moves ⟨before, some c⟩ ways) taken best) rest := by
  rw [run]
  split
  · next hnil =>
    have hafter : waysAfter (moves ⟨before, some c⟩ ways) c = [] := distinct_eq_nil.mp hnil
    simp only [if_pos hafter, bestSoFar, List.contains_iff_mem]
  · next hne =>
    have hafter : waysAfter (moves ⟨before, some c⟩ ways) c ≠ [] :=
      fun h ↦ hne (distinct_eq_nil.mpr h)
    simp only [if_neg hafter, bestSoFar, List.contains_iff_mem]
    rfl

theorem bestSoFar_eq_some {ms : List Move} {taken n : ℕ} {best : Option ℕ}
    (h : bestSoFar ms taken best = some n) : best = some n ∨ .done ∈ ms ∧ n = taken := by
  unfold bestSoFar at h
  split at h
  · next hdone => exact .inr ⟨hdone, (Option.some.inj h).symm⟩
  · exact .inl h

theorem isSome_bestSoFar {ms : List Move} {taken : ℕ} {best : Option ℕ}
    (h : best.isSome ∨ .done ∈ ms) : (bestSoFar ms taken best).isSome := by
  unfold bestSoFar
  split
  · rfl
  · next hdone => exact h.resolve_right hdone

theorem run_le {ways : List Way} {before : Option Char} {taken n : ℕ} {best : Option ℕ}
    {cs : List Char} (h : run ways before taken best cs = some n) :
    best = some n ∨ taken ≤ n ∧ n ≤ taken + cs.length := by
  induction cs generalizing ways before taken best with
  | nil =>
    rw [run_nil] at h
    exact (bestSoFar_eq_some h).imp_right fun ⟨_, hn⟩ ↦ by simp [hn]
  | cons c rest ih =>
    rw [run_cons] at h
    have hlast : bestSoFar (moves ⟨before, some c⟩ ways) taken best = some n ∨
        taken + 1 ≤ n ∧ n ≤ taken + 1 + rest.length := by
      split at h
      · exact .inl h
      · exact ih h
    rw [List.length_cons]
    rcases hlast with h | h
    · exact (bestSoFar_eq_some h).imp_right fun ⟨_, hn⟩ ↦ by omega
    · omega

theorem waysAfter_isPlain {ways : List Way} {c : Char}
    (hways : ∀ way ∈ ways, ∀ r ∈ way, r.isPlain) :
    ∀ way ∈ distinct (waysAfter (moves g ways) c), ∀ r ∈ way, r.isPlain := by
  intro way hway
  obtain ⟨s, hm, -⟩ := exists_of_mem_waysAfter (mem_distinct.mp hway)
  exact moves_isPlain hways _ hm

theorem run_sound {ways : List Way} (hways : ∀ way ∈ ways, ∀ r ∈ way, r.isPlain)
    {before : Option Char} {taken n : ℕ} {best : Option ℕ} {cs : List Char}
    (h : run ways before taken best cs = some n) :
    best = some n ∨
      ∃ t u, cs = t ++ u ∧ n = taken + t.length ∧ waysLanguage ways before t u.head? := by
  induction cs generalizing ways before taken best with
  | nil =>
    rw [run_nil] at h
    refine (bestSoFar_eq_some h).imp_right fun ⟨hdone, hn⟩ ↦ ⟨[], [], rfl, by simp [hn], ?_⟩
    exact (exists_moves hways (g := ⟨before, none⟩) rfl).mp ⟨.done, hdone, rfl⟩
  | cons c rest ih =>
    rw [run_cons] at h
    have hlast : bestSoFar (moves ⟨before, some c⟩ ways) taken best = some n ∨
        ∃ t u, rest = t ++ u ∧ n = taken + 1 + t.length ∧
          waysLanguage (distinct (waysAfter (moves ⟨before, some c⟩ ways) c)) (some c) t
            u.head? := by
      split at h
      · exact .inl h
      · exact ih (waysAfter_isPlain hways) h
    rcases hlast with h | ⟨t, u, rfl, rfl, way, hway, ht⟩
    · refine (bestSoFar_eq_some h).imp_right fun ⟨hdone, hn⟩ ↦
        ⟨[], c :: rest, rfl, by simp [hn], ?_⟩
      exact (exists_moves hways (g := ⟨before, some c⟩) rfl).mp ⟨.done, hdone, rfl⟩
    · obtain ⟨s, hm, hc⟩ := exists_of_mem_waysAfter (mem_distinct.mp hway)
      refine .inr ⟨c :: t, u, rfl, by simp only [List.length_cons]; omega, ?_⟩
      exact (exists_moves hways (g := ⟨before, some c⟩) rfl).mp ⟨_, hm, c, t, rfl, hc, ht⟩

theorem run_complete {ways : List Way} (hways : ∀ way ∈ ways, ∀ r ∈ way, r.isPlain)
    {before : Option Char} {taken : ℕ} {best : Option ℕ} {cs : List Char}
    (h : best.isSome ∨ ∃ t u, cs = t ++ u ∧ waysLanguage ways before t u.head?) :
    (run ways before taken best cs).isSome := by
  induction cs generalizing ways before taken best with
  | nil =>
    rw [run_nil]
    refine isSome_bestSoFar (h.imp_right ?_)
    rintro ⟨t, u, htu, hl⟩
    obtain ⟨rfl, rfl⟩ := List.append_eq_nil_iff.mp htu.symm
    obtain ⟨m, hm, hl⟩ := (exists_moves hways (g := ⟨before, none⟩) rfl).mpr hl
    cases m with
    | done => exact hm
    | take s k => obtain ⟨_, _, hnil, -⟩ := hl; cases hnil
  | cons c rest ih =>
    rw [run_cons]
    by_cases hbest : best.isSome ∨ .done ∈ moves ⟨before, some c⟩ ways
    · have hsome : (bestSoFar _ taken best).isSome := isSome_bestSoFar hbest
      split
      · exact hsome
      · exact ih (waysAfter_isPlain hways) (.inl hsome)
    · -- No way ends here, so none of them is given up when the character is taken.
      obtain ⟨hnone, hdone⟩ := not_or.mp hbest
      obtain ⟨t, u, htu, hl⟩ := h.resolve_left hnone
      have hg : t.head?.or u.head? = some c := by rw [← List.head?_append, ← htu]; rfl
      obtain ⟨m, hm, hl⟩ := (exists_moves hways (g := ⟨before, some c⟩) hg).mpr hl
      cases m with
      | done => exact absurd hm hdone
      | take s k =>
        obtain ⟨d, t, rfl, hd, hl⟩ := hl
        obtain ⟨rfl, rfl⟩ := List.cons_eq_cons.mp htu
        have hway := mem_waysAfter hdone hm hd
        rw [if_neg (List.ne_nil_of_mem hway)]
        exact ih (waysAfter_isPlain hways) (.inr ⟨t, u, rfl, k, mem_distinct.mpr hway, hl⟩)

section

variable {r : Regex} {before : Option Char} {cs : List Char} {n : ℕ}

theorem matchLength?_le (h : r.matchLength? before cs = some n) : n ≤ cs.length := by
  have := (run_le h).resolve_left (by simp)
  omega

theorem language_of_matchLength? (hr : r.isPlain) (h : r.matchLength? before cs = some n) :
    ∃ t u, cs = t ++ u ∧ t.length = n ∧ r.language before t u.head? := by
  obtain ⟨t, u, hcs, hn, hl⟩ := (run_sound (by simpa using hr) h).resolve_left (by simp)
  exact ⟨t, u, hcs, by omega, by simpa [waysLanguage, Way.language] using hl⟩

theorem isSome_matchLength? (hr : r.isPlain) {t u : List Char}
    (h : r.language before t u.head?) : (r.matchLength? before (t ++ u)).isSome :=
  run_complete (by simpa using hr)
    (.inr ⟨t, u, rfl, by simpa [waysLanguage, Way.language] using h⟩)

end

end MountSweep.Regex
