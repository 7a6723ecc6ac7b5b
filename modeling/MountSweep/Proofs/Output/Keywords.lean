import MountSweep.Output.Surveillance
import MountSweep.Proofs.Regex.Occurrences
import MountSweep.Proofs.Unicode.Folding

namespace MountSweep.Output

open Regex Unicode

def keywords : List String :=
  ["exception", "error", "warning", "fatal", "traceback", "fault", "crashed", "crash", "aborted",
    "abort", "uninitialized", "uninitialised"]

/-- A text is another one up to case: character by character the two fold alike. -/
def Spells (t : List Char) (k : String) : Prop := t.map fold = k.toList.map fold

/-- A maximal run of word characters that is a keyword up to case. -/
structure WholeKeyword (before : Option Char) (w : List Char) (after : Option Char) : Prop where
  nonempty : w ≠ []
  word : ∀ c ∈ w, isWord c
  starts : ∀ c ∈ before, ¬ isWord c
  ends : ∀ c ∈ after, ¬ isWord c
  keyword : ∃ k ∈ keywords, Spells w k

/-- The heading of a leak report: at the beginning of a line, two equals signs, a number in ASCII
digits, two equals signs and a title, up to case. -/
structure LeakHeading (before : Option Char) (m : List Char) (after : Option Char) : Prop where
  lineStart : ∀ c ∈ before, c = '\n'
  heading : ∃ x ds y, m = x ++ ds ++ y ∧ Spells x "==" ∧ ds ≠ [] ∧ (∀ d ∈ ds, d.isDigit) ∧
    Spells y "== LEAK SUMMARY:"

def spelling (k : String) : Language := fun _ t _ ↦ Spells t k

def spellings (ks : List String) : Language := fun _ t _ ↦ ∃ k ∈ ks, Spells t k

variable {b a : Option Char} {t : List Char}

theorem spelling_append (k l : String) :
    (spelling k).followedBy (spelling l) = spelling (k ++ l) := by
  funext b t a
  refine propext ?_
  rw [spelling, Spells, String.toList_append, List.map_append, List.map_eq_append_iff]
  rfl

theorem language_letters (k : String) : Way.language (letters k) = spelling k := by
  funext b t a
  refine propext ?_
  unfold letters spelling Spells
  induction k.toList generalizing b t with
  | nil => simp [Way.language, Language.unit]
  | cons c cs ih =>
    rw [List.map_cons, List.map_cons, Way.language, oneOf_followedBy, List.map_eq_cons_iff]
    simp only [CharSet.contains, beq_iff_eq, ih]

theorem language_word (k : String) : (seqs (letters k)).language = spellings [k] := by
  funext b t a
  simp [language_seqs, language_letters, spellings, spelling]

theorem either_spelling (k l : String) : (spelling k).either (spelling l) = spellings [k, l] := by
  funext b t a
  simp [Language.either, spellings, spelling]

theorem language_optionalEd : optionalEd.language = (spelling "ed").either .unit := by
  rw [optionalEd, language, language_seqs, language_letters]
  exact (Language.repeated_zero _ (some 0)).trans
    (by rw [Language.repeated_zero_zero, Language.followedBy_unit])

theorem language_letters_optionalEd (k : String) :
    (seqs (letters k ++ [optionalEd])).language = spellings [k ++ "ed", k] := by
  rw [language_seqs, Way.language_append, language_letters, Way.language, Way.language,
    Language.followedBy_unit, language_optionalEd, Language.followedBy_either, spelling_append,
    Language.followedBy_unit, either_spelling]

theorem language_zs :
    (oneOf (.folded (.union (.single 'z') (.single 's')))).language =
      (spelling "z").either (spelling "s") := by
  funext b t a
  have hzs (c : Char) : (CharSet.folded (.union (.single 'z') (.single 's'))).contains c ↔
      fold c = 'z' ∨ fold c = 's' := by
    simp only [CharSet.contains, List.any_eq_true, Bool.or_eq_true, beq_iff_eq, and_or_left,
      exists_or, exists_eq_right]
    rw [mem_caseVariants_iff (by decide) (by decide) (by decide),
      mem_caseVariants_iff (by decide) (by decide) (by decide)]
  have hz : "z".toList.map fold = ['z'] := by decide
  have hs : "s".toList.map fold = ['s'] := by decide
  simp only [language, hzs, Language.either, spelling, Spells, hz, hs, List.map_eq_singleton_iff,
    and_or_left, exists_or]

theorem language_letters_zs (k l : String) :
    (seqs (letters k ++
      .oneOf (.folded (.union (.single 'z') (.single 's'))) :: letters l)).language =
      spellings [k ++ "z" ++ l, k ++ "s" ++ l] := by
  rw [language_seqs, Way.language_append, language_letters, Way.language, language_zs,
    language_letters, Language.either_followedBy, Language.followedBy_either, spelling_append,
    spelling_append, spelling_append, spelling_append, String.append_assoc, String.append_assoc,
    either_spelling]

theorem language_alts_spellings {rs : List Regex} {kss : List (List String)}
    (h : List.Forall₂ (fun r ks ↦ r.language = spellings ks) rs kss) :
    (alts rs).language = spellings kss.flatten := by
  funext b t a
  refine propext ?_
  rw [language_alts]
  induction h with
  | nil => simp [spellings]
  | cons hr _ ih =>
    simp only [List.exists_mem_cons_iff, ih, hr, spellings, List.flatten_cons, List.mem_append,
      or_and_right, exists_or]

theorem language_digits :
    (iterate (.oneOf (.folded (.range '0' '9'))) 1 none true).language b t a ↔
      t ≠ [] ∧ ∀ d ∈ t, d.isDigit := by
  have hrange (d : Char) : (CharSet.range '0' '9').contains d ↔ d.isDigit := by
    simp [CharSet.contains, Char.isDigit, Char.le_def]
  have hdigit (c : Char) : (CharSet.folded (.range '0' '9')).contains c ↔ c.isDigit := by
    rw [CharSet.contains, List.any_eq_true]
    refine ⟨?_, fun hc ↦ ⟨c, ?_, (hrange c).mpr hc⟩⟩
    · rintro ⟨d, hd, hin⟩
      have hin := (hrange d).mp hin
      have hascii := toNat_of_isDigit hin
      have hupper : ¬ d.isUpper := fun hu ↦ by
        have := isUpper_iff_toNat.mp hu
        omega
      rw [mem_caseVariants_iff (by omega) (by omega) hupper] at hd
      exact isDigit_of_fold (hd ▸ hin)
    · exact List.mem_cons.mpr (.inl (fold_of_isDigit hc).symm)
  rw [language]
  simp only [Language.repeated, times_oneOf, hdigit]
  constructor
  · rintro ⟨_, hmin, -, rfl, hall⟩
    exact ⟨List.ne_nil_of_length_pos hmin, hall⟩
  · rintro ⟨hne, hall⟩
    exact ⟨_, List.length_pos_of_ne_nil hne, by simp, rfl, hall⟩

variable {k : String}

theorem Spells.length (h : Spells t k) : t.length = k.toList.length := by
  simpa using congrArg List.length h

theorem isAlpha_of_mem_keywords (hk : k ∈ keywords) : ∀ d ∈ k.toList, d.isAlpha := by
  have hall : keywords.all (·.toList.all Char.isAlpha) := by decide +kernel
  exact List.all_eq_true.mp (List.all_eq_true.mp hall k hk)

theorem Spells.isWord (hk : k ∈ keywords) (h : Spells t k) : ∀ c ∈ t, isWord c := by
  intro c hc
  have hfold : fold c ∈ k.toList.map fold := by
    rw [← show t.map fold = k.toList.map fold from h]
    exact List.mem_map_of_mem hc
  obtain ⟨d, hd, hdc⟩ := List.mem_map.mp hfold
  exact isWord_of_fold_eq hdc.symm (isAlpha_fold (isAlpha_of_mem_keywords hk d hd))

theorem Spells.ne_nil (hk : k ∈ keywords) (h : Spells t k) : t ≠ [] := by
  have hne : ∀ k ∈ keywords, k.toList ≠ [] := by decide +kernel
  rintro rfl
  exact hne k hk (List.length_eq_zero_iff.mp h.length.symm)

theorem language_alternatives :
    (alts [
      .seqs (letters "exception"), .seqs (letters "error"), .seqs (letters "warning"),
      .seqs (letters "fatal"), .seqs (letters "traceback"), .seqs (letters "fault"),
      .seqs (letters "crash" ++ [optionalEd]), .seqs (letters "abort" ++ [optionalEd]),
      .seqs (letters "uninitiali" ++
        .oneOf (.folded (.union (.single 'z') (.single 's'))) :: letters "ed")]).language =
      spellings keywords :=
  language_alts_spellings <|
    .cons (language_word _) <| .cons (language_word _) <|
    .cons (language_word _) <| .cons (language_word _) <|
    .cons (language_word _) <| .cons (language_word _) <|
    .cons (language_letters_optionalEd _) <| .cons (language_letters_optionalEd _) <|
    .cons (language_letters_zs _ _) .nil

/-- A boundary of words in front of a word character has no word character before it. -/
theorem holds_wordBoundary_left {c : Char} (hc : isWord c) :
    (Look.wordBoundary false).holds ⟨b, some c⟩ ↔ ∀ d ∈ b, ¬ isWord d := by
  cases b <;> simp [Look.holds, isWordAt, hc]

theorem holds_wordBoundary_right {c : Char} (hc : isWord c) :
    (Look.wordBoundary false).holds ⟨some c, a⟩ ↔ ∀ d ∈ a, ¬ isWord d := by
  cases a <;> simp [Look.holds, isWordAt, hc]

theorem language_suspiciousWord : suspiciousWord.language = WholeKeyword := by
  funext b t a
  refine propext ?_
  rw [suspiciousWord, language_seqs, Way.language, Way.language, Way.language,
    Way.language, Language.followedBy_unit, language_alternatives, look_followedBy, followedBy_look]
  constructor
  · rintro ⟨hstart, ⟨k, hk, hspell⟩, hend⟩
    have hne := hspell.ne_nil hk
    have hword := hspell.isWord hk
    rw [List.head?_eq_some_head hne, Option.some_or,
      holds_wordBoundary_left (hword _ (List.head_mem hne))] at hstart
    rw [List.getLast?_eq_some_getLast hne, Option.some_or,
      holds_wordBoundary_right (hword _ (List.getLast_mem hne))] at hend
    exact ⟨hne, hword, hstart, hend, k, hk, hspell⟩
  · rintro ⟨hne, hword, hstart, hend, hkeyword⟩
    refine ⟨?_, hkeyword, ?_⟩
    · rwa [List.head?_eq_some_head hne, Option.some_or,
        holds_wordBoundary_left (hword _ (List.head_mem hne))]
    · rwa [List.getLast?_eq_some_getLast hne, Option.some_or,
        holds_wordBoundary_right (hword _ (List.getLast_mem hne))]

theorem holds_lineStart : Look.lineStart.holds ⟨b, a⟩ ↔ ∀ c ∈ b, c = '\n' := by
  cases b <;> simp [Look.holds]

theorem language_leakSummary : leakSummary.language = LeakHeading := by
  funext b t a
  refine propext ?_
  rw [leakSummary, language_seqs, List.cons_append, Way.language, look_followedBy, holds_lineStart,
    Way.language_append, Way.language, language_letters, language_letters]
  constructor
  · rintro ⟨hstart, x, _, rfl, hx, ds, y, rfl, hds, hy⟩
    obtain ⟨hne, hdigits⟩ := language_digits.mp hds
    exact ⟨hstart, x, ds, y, by simp, hx, hne, hdigits, hy⟩
  · rintro ⟨hstart, x, ds, y, rfl, hx, hne, hdigits, hy⟩
    exact ⟨hstart, x, ds ++ y, by simp, hx, ds, y, rfl, language_digits.mpr ⟨hne, hdigits⟩, hy⟩

theorem takeWhile_of_head? {p : Char → Bool} {m u : List Char} (hm : ∀ c ∈ m, p c)
    (hu : ∀ c ∈ u.head?, ¬ p c) : (m ++ u).takeWhile p = m := by
  rw [List.takeWhile_append_of_pos hm]
  cases u with
  | nil => simp
  | cons c u => rw [List.takeWhile_cons_of_neg (hu c rfl), List.append_nil]

theorem unambiguous_wholeKeyword : Language.Unambiguous WholeKeyword := by
  intro b m u m' u' h hm hm'
  rw [← takeWhile_of_head? hm.word hm.ends, h, takeWhile_of_head? hm'.word hm'.ends]

theorem LeakHeading.split (h : LeakHeading b t a) (u : List Char) :
    t = (t ++ u).take (2 + (((t ++ u).drop 2).takeWhile Char.isDigit).length + 16) := by
  obtain ⟨-, x, ds, y, rfl, hx, -, hds, hy⟩ := h
  -- The text after the number begins with what folds to an equals sign, which is no digit.
  have hhead : ∀ c ∈ (y ++ u).head?, ¬ c.isDigit := by
    obtain ⟨c, y, rfl, hc, -⟩ := List.map_eq_cons_iff.mp hy
    have hc : fold c = '=' := hc.trans (by decide)
    rintro _ ⟨⟩ hdigit
    rw [fold_of_isDigit hdigit] at hc
    rw [hc] at hdigit
    exact absurd hdigit (by decide)
  have hdrop : (x ++ ds ++ y ++ u).drop 2 = ds ++ (y ++ u) := by
    rw [List.append_assoc, List.append_assoc]
    exact List.drop_left' hx.length
  have hlen : (x ++ ds ++ y).length = 2 + ds.length + 16 := by
    rw [List.length_append, List.length_append, hx.length, hy.length]
    rfl
  rw [hdrop, takeWhile_of_head? hds hhead, ← hlen, List.take_left]

theorem unambiguous_leakHeading : Language.Unambiguous LeakHeading := by
  intro b m u m' u' h hm hm'
  rw [hm.split u, h, ← hm'.split u']

theorem isPlain_suspiciousWord : suspiciousWord.isPlain := by decide

theorem isPlain_leakSummary : leakSummary.isPlain := by decide

end MountSweep.Output
