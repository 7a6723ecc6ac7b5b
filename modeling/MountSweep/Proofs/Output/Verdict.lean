import MountSweep.Proofs.Output.Keywords

namespace MountSweep.Output

open Regex

/-- What is reported of the texts that the rules leave on the two streams. -/
inductive Reports (out err : List Char) : Stream → List Char → Prop
  | wordOnErr {m : List Char} (h : Language.First WholeKeyword err m) : Reports out err .stderr m
  | wordOnOut {m : List Char} (herr : Language.Absent WholeKeyword err)
      (h : Language.First WholeKeyword out m) : Reports out err .stdout m
  | leakOnErr {m : List Char} (herr : Language.Absent WholeKeyword err)
      (hout : Language.Absent WholeKeyword out) (h : Language.First LeakHeading err m) :
      Reports out err .stderr m
  | leakOnOut {m : List Char} (herr : Language.Absent WholeKeyword err)
      (hout : Language.Absent WholeKeyword out) (hleak : Language.Absent LeakHeading err)
      (h : Language.First LeakHeading out m) : Reports out err .stdout m

/-- Texts without keywords and without leak headings. -/
structure Harmless (out err : List Char) : Prop where
  wordOnErr : Language.Absent WholeKeyword err
  wordOnOut : Language.Absent WholeKeyword out
  leakOnErr : Language.Absent LeakHeading err
  leakOnOut : Language.Absent LeakHeading out

variable {cs m out err : List Char}

theorem find?_suspiciousWord_eq_none :
    suspiciousWord.find? cs = none ↔ Language.Absent WholeKeyword cs := by
  rw [find?_eq_none_iff isPlain_suspiciousWord, language_suspiciousWord]

theorem find?_suspiciousWord_eq_some :
    suspiciousWord.find? cs = some m ↔ Language.First WholeKeyword cs m := by
  have hu := unambiguous_wholeKeyword
  rw [← language_suspiciousWord] at hu ⊢
  exact find?_eq_some_iff isPlain_suspiciousWord hu

theorem find?_leakSummary_eq_none :
    leakSummary.find? cs = none ↔ Language.Absent LeakHeading cs := by
  rw [find?_eq_none_iff isPlain_leakSummary, language_leakSummary]

theorem find?_leakSummary_eq_some :
    leakSummary.find? cs = some m ↔ Language.First LeakHeading cs m := by
  have hu := unambiguous_leakHeading
  rw [← language_leakSummary] at hu ⊢
  exact find?_eq_some_iff isPlain_leakSummary hu

theorem harmless_or_reports (out err : List Char) :
    Harmless out err ∨ ∃ stream m, Reports out err stream m := by
  cases hwe : suspiciousWord.find? err with
  | some m => exact .inr ⟨_, m, .wordOnErr (find?_suspiciousWord_eq_some.mp hwe)⟩
  | none =>
    have hwe := find?_suspiciousWord_eq_none.mp hwe
    cases hwo : suspiciousWord.find? out with
    | some m => exact .inr ⟨_, m, .wordOnOut hwe (find?_suspiciousWord_eq_some.mp hwo)⟩
    | none =>
      have hwo := find?_suspiciousWord_eq_none.mp hwo
      cases hle : leakSummary.find? err with
      | some m => exact .inr ⟨_, m, .leakOnErr hwe hwo (find?_leakSummary_eq_some.mp hle)⟩
      | none =>
        have hle := find?_leakSummary_eq_none.mp hle
        cases hlo : leakSummary.find? out with
        | some m => exact .inr ⟨_, m, .leakOnOut hwe hwo hle (find?_leakSummary_eq_some.mp hlo)⟩
        | none => exact .inl ⟨hwe, hwo, hle, find?_leakSummary_eq_none.mp hlo⟩

namespace Surveillance

variable {s : Surveillance} {c : Captured} {x : SuspiciousOutput}

theorem classify_eq (h : s.residual c = (out, err)) :
    s.classify c = match suspiciousWord.find? err with
      | some m => .error ⟨.stderr, String.ofList m⟩
      | none => match suspiciousWord.find? out with
        | some m => .error ⟨.stdout, String.ofList m⟩
        | none => match leakSummary.find? err with
          | some m => .error ⟨.stderr, String.ofList m⟩
          | none => match leakSummary.find? out with
            | some m => .error ⟨.stdout, String.ofList m⟩
            | none => .ok () := by
  rw [classify, h]
  cases hwe : suspiciousWord.find? err with
  | some m => simp [hwe]
  | none =>
    cases hwo : suspiciousWord.find? out with
    | some m => simp [hwe, hwo]
    | none =>
      cases hle : leakSummary.find? err with
      | some m => simp [hwe, hwo, hle]
      | none => cases hlo : leakSummary.find? out <;> simp [hwe, hwo, hle, hlo]

theorem classify_of_harmless (h : s.residual c = (out, err)) (hh : Harmless out err) :
    s.classify c = .ok () := by
  rw [classify_eq h, find?_suspiciousWord_eq_none.mpr hh.wordOnErr,
    find?_suspiciousWord_eq_none.mpr hh.wordOnOut, find?_leakSummary_eq_none.mpr hh.leakOnErr,
    find?_leakSummary_eq_none.mpr hh.leakOnOut]

theorem classify_of_reports (h : s.residual c = (out, err)) {stream : Stream}
    (hr : Reports out err stream m) : s.classify c = .error ⟨stream, String.ofList m⟩ := by
  rw [classify_eq h]
  cases hr with
  | wordOnErr hm => rw [find?_suspiciousWord_eq_some.mpr hm]
  | wordOnOut hwe hm =>
    rw [find?_suspiciousWord_eq_none.mpr hwe, find?_suspiciousWord_eq_some.mpr hm]
  | leakOnErr hwe hwo hm =>
    rw [find?_suspiciousWord_eq_none.mpr hwe, find?_suspiciousWord_eq_none.mpr hwo,
      find?_leakSummary_eq_some.mpr hm]
  | leakOnOut hwe hwo hle hm =>
    rw [find?_suspiciousWord_eq_none.mpr hwe, find?_suspiciousWord_eq_none.mpr hwo,
      find?_leakSummary_eq_none.mpr hle, find?_leakSummary_eq_some.mpr hm]

theorem classify_eq_ok_iff (h : s.residual c = (out, err)) :
    s.classify c = .ok () ↔ Harmless out err := by
  refine ⟨fun hok ↦ ?_, classify_of_harmless h⟩
  rcases harmless_or_reports out err with hh | ⟨stream, m, hr⟩
  · exact hh
  · rw [classify_of_reports h hr] at hok
    cases hok

theorem classify_eq_error_iff (h : s.residual c = (out, err)) :
    s.classify c = .error x ↔ Reports out err x.stream x.found.toList := by
  refine ⟨fun herror ↦ ?_, fun hr ↦ ?_⟩
  · rcases harmless_or_reports out err with hh | ⟨stream, m, hr⟩
    · rw [classify_of_harmless h hh] at herror
      cases herror
    · rw [classify_of_reports h hr] at herror
      obtain rfl := Except.error.inj herror
      simpa using hr
  · rw [classify_of_reports h hr, String.ofList_toList]

/-- The verdict on captured output. It is accepted just if the texts that the rules leave have no
keyword standing alone and no leak heading. Otherwise the report names a stream and quotes from it
the first text of the kind that comes first in order. -/
theorem classify_reports_first_hit (s : Surveillance) (c : Captured) :
    (s.classify c = .ok () ↔ Harmless (s.residual c).1 (s.residual c).2) ∧
      ∀ x, s.classify c = .error x ↔
        Reports (s.residual c).1 (s.residual c).2 x.stream x.found.toList :=
  ⟨classify_eq_ok_iff rfl, fun _ ↦ classify_eq_error_iff rfl⟩

/-- A word on standard output comes before a leak on standard error. -/
example : ({} : Surveillance).classify
      ⟨Bytes.ofString "two errors, one Fault", Bytes.ofString "==7== LEAK SUMMARY:"⟩ =
    .error ⟨.stdout, "Fault"⟩ := by decide +kernel

end Surveillance

end MountSweep.Output
