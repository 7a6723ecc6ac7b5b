import MountSweep.Proofs.Regex.Literal
import MountSweep.Proofs.Regex.Size
import MountSweep.Proofs.Validation

namespace MountSweep.Output

open Regex

/-- A text is the one that a literal rule stands for or, where case does not count, folds to the
same text. -/
def Alike : Bool → List Char → List Char → Prop
  | false, t, m => m = t
  | true, t, m => m.map Unicode.fold = t.map Unicode.fold

/-- The places of a text, found from left to right without overlap. -/
def Occurrences (caseInsensitive : Bool) (t cs : List Char) (ws : List Span) : Prop :=
  ChosenFrom (StandsAt (Alike caseInsensitive t) cs) t.length 0 ws

def literalFlags (caseInsensitive : Bool) : Flags :=
  { caseInsensitive := caseInsensitive, multiLine := true }

/-- The automata of a literal rule fit into memory. Where case counts, they do up to a number of
bytes. -/
def FitsLiteral : Bool → List Char → Prop
  | false, t => (Bytes.ofChars t).length ≤ Plan.textLimit
  | true, t => (Plan.ofText (literalFlags true) t).fits

variable {caseInsensitive : Bool} {t cs : List Char} {ws : List Span} {i : ℕ}

theorem fits_iff_fitsLiteral :
    (Plan.ofText (literalFlags caseInsensitive) t).fits ↔ FitsLiteral caseInsensitive t := by
  cases caseInsensitive with
  | false => exact Plan.fits_ofText_iff rfl t
  | true => exact Iff.rfl

theorem forall₂_charSet :
    List.Forall₂ (fun s c ↦ s.contains c) (t.map (Reader.charSet (literalFlags caseInsensitive))) =
      Alike caseInsensitive t := by
  funext m
  rw [List.forall₂_map_left_iff]
  cases caseInsensitive with
  | false =>
    have hchar (c x : Char) : (Reader.charSet (literalFlags false) c).contains x ↔ c = x :=
      beq_iff_eq.trans eq_comm
    simp only [hchar, List.forall₂_eq_eq_eq]
    exact propext eq_comm
  | true =>
    have hchar (c x : Char) : (Reader.charSet (literalFlags true) c).contains x ↔
        Unicode.fold c = Unicode.fold x := beq_iff_eq.trans eq_comm
    have hmap : List.Forall₂ (fun c x ↦ Unicode.fold c = Unicode.fold x) t m ↔
        List.Forall₂ (· = ·) (t.map Unicode.fold) (m.map Unicode.fold) := by
      rw [List.forall₂_map_left_iff, List.forall₂_map_right_iff]
    simp only [hchar, hmap, List.forall₂_eq_eq_eq]
    exact propext eq_comm

theorem spans_literal_eq_iff :
    (seqs (t.map fun c ↦ .oneOf (Reader.charSet (literalFlags caseInsensitive) c))).spans cs = ws ↔
      Occurrences caseInsensitive t cs ws := by
  have h := spans_sets_eq_iff (t.map (Reader.charSet (literalFlags caseInsensitive))) cs ws
  rwa [forall₂_charSet, List.length_map, List.map_map] at h

theorem Alike.length_eq {m : List Char} (h : Alike caseInsensitive t m) :
    m.length = t.length := by
  cases caseInsensitive with
  | false => exact congrArg List.length h
  | true => simpa using congrArg List.length h

instance (caseInsensitive : Bool) (t m : List Char) : Decidable (Alike caseInsensitive t m) :=
  match caseInsensitive with
  | false => inferInstanceAs (Decidable (m = t))
  | true => inferInstanceAs (Decidable (m.map Unicode.fold = t.map Unicode.fold))

theorem standsAt_alike_iff : StandsAt (Alike caseInsensitive t) cs i ↔
    i ≤ cs.length ∧ Alike caseInsensitive t ((cs.drop i).take t.length) := by
  constructor
  · intro h
    refine ⟨h.le, ?_⟩
    obtain ⟨pre, m, post, rfl, rfl, hm⟩ := h
    rwa [List.append_assoc, List.drop_left, ← hm.length_eq, List.take_left]
  · rintro ⟨hi, hm⟩
    refine ⟨cs.take i, _, (cs.drop i).drop t.length, ?_, List.length_take_of_le hi, hm⟩
    rw [List.append_assoc, List.take_append_drop, List.take_append_drop]

instance : DecidablePred (StandsAt (Alike caseInsensitive t) cs) := fun _ ↦
  decidable_of_iff _ standsAt_alike_iff.symm

theorem occurrences_nil : Occurrences caseInsensitive [] cs
    ((List.range (cs.length + 1)).map fun i ↦ ⟨i, i⟩) := by
  have halike : Alike caseInsensitive [] [] := by cases caseInsensitive <;> rfl
  rw [List.range_eq_range']
  refine chosenFrom_zero _ _ fun i _ ↦ standsAt_alike_iff.trans ?_
  rw [List.length_nil, List.take_zero, and_iff_left halike]
  omega

def literalSpec (t : String) (n : ℕ) (caseInsensitive : Bool) : RuleSpec :=
  { pattern := t, count := n, literal := true, caseInsensitive := caseInsensitive }

theorem ofSpec?_literalSpec (t : String) (n : ℕ) (caseInsensitive : Bool) :
    Rule.ofSpec? (literalSpec t n caseInsensitive) =
      if (Plan.ofText (literalFlags caseInsensitive) t.toList).fits then
        .ok ⟨Rule.escapedPattern t, seqs (t.toList.map fun c ↦
          .oneOf (Reader.charSet (literalFlags caseInsensitive) c)), n⟩
      else .error (.invalidPattern (Rule.escapedPattern t) Fault.tooLarge.message) := by
  have hread : (literalSpec t n caseInsensitive).read =
      Regex.parse? (literalFlags caseInsensitive) (escaped t.toList) := by
    rw [← String.toList_ofList (l := escaped t.toList)]
    rfl
  rw [RuleSpec.ofSpec?_eq, hread, parse?_escaped rfl]
  by_cases h : (Plan.ofText (literalFlags caseInsensitive) t.toList).fits = true
  · simp only [if_pos h]
    rfl
  · simp only [if_neg h]
    rfl

/-- Both ways to a literal rule give the same rule. A text that fits makes one, of which the matches
are the places of the text, and the empty text stands at every place; one that does not fit is
refused for its size. -/
theorem literal_rules_match_occurrences (t : String) (n : ℕ) :
    Rule.ofLiteral? t n = Rule.ofSpec? (literalSpec t n false) ∧
      ∀ caseInsensitive,
        (FitsLiteral caseInsensitive t.toList →
          ∃ rule, Rule.ofSpec? (literalSpec t n caseInsensitive) = .ok rule ∧
            rule.pattern = Rule.escapedPattern t ∧ rule.allowance = n ∧
            (∀ cs ws, rule.regex.spans cs = ws ↔ Occurrences caseInsensitive t.toList cs ws) ∧
            (t = "" → ∀ cs, rule.regex.spans cs =
              (List.range (cs.length + 1)).map fun i ↦ ⟨i, i⟩)) ∧
        (¬ FitsLiteral caseInsensitive t.toList →
          Rule.ofSpec? (literalSpec t n caseInsensitive) =
            .error (.invalidPattern (Rule.escapedPattern t) Fault.tooLarge.message)) := by
  refine ⟨rfl, fun caseInsensitive ↦ ⟨fun hfits ↦ ?_, fun hfits ↦ ?_⟩⟩
  · rw [ofSpec?_literalSpec, if_pos (fits_iff_fitsLiteral.mpr hfits)]
    refine ⟨_, rfl, rfl, rfl, fun cs ws ↦ spans_literal_eq_iff, ?_⟩
    rintro rfl cs
    exact spans_literal_eq_iff.mpr occurrences_nil
  · rw [ofSpec?_literalSpec, if_neg (mt fits_iff_fitsLiteral.mp hfits)]

theorem ofText_letters : Plan.ofText (literalFlags true) "a.b".toList =
    .seq [.oneOf (.foldsLike 'a') [(65, 65), (97, 97)], .text [(.foldsLike '.', '.')],
      .oneOf (.foldsLike 'b') [(66, 66), (98, 98)]] := by
  have ha : (CharSet.foldsLike 'a').ranges = [(65, 65), (97, 97)] :=
    Ranges.ofList_swap (a := 65) (b := 97) (by decide)
  have hpoint : (CharSet.foldsLike '.').ranges = [(46, 46)] := Ranges.ofList_single
  have hb : (CharSet.foldsLike 'b').ranges = [(66, 66), (98, 98)] :=
    Ranges.ofList_swap (a := 66) (b := 98) (by decide)
  show Plan.ofSeq [.ofRanges (.foldsLike 'a') (CharSet.foldsLike 'a').ranges,
    .ofRanges (.foldsLike '.') (CharSet.foldsLike '.').ranges,
    .ofRanges (.foldsLike 'b') (CharSet.foldsLike 'b').ranges] = _
  rw [ha, hpoint, hb]
  rfl

/-- A rule for a text with a sign that means any character in patterns finds that text and no
other. -/
theorem literal_rule_reads_signs :
    FitsLiteral false "a.b".toList ∧ FitsLiteral true "a.b".toList ∧
      (∃ rule, Rule.ofLiteral? "a.b" 2 = .ok rule ∧
        rule.regex.spans "axb A.Ba.b".toList = [⟨7, 10⟩]) ∧
      ∃ rule, Rule.ofSpec? (literalSpec "a.b" 2 true) = .ok rule ∧
        rule.regex.spans "axb A.Ba.b".toList = [⟨4, 7⟩, ⟨7, 10⟩] := by
  have hfits : FitsLiteral false "a.b".toList := by
    unfold FitsLiteral
    decide
  have hfolded : FitsLiteral true "a.b".toList := by
    rw [FitsLiteral, ofText_letters]
    decide +kernel
  obtain ⟨hsame, h⟩ := literal_rules_match_occurrences "a.b" 2
  obtain ⟨rule, hrule, -, -, hspans, -⟩ := (h false).1 hfits
  obtain ⟨folded, hread, -, -, hfound, -⟩ := (h true).1 hfolded
  have hend {caseInsensitive : Bool} (hnot : ¬ Alike caseInsensitive "a.b".toList []) :
      ∀ j, 10 ≤ j → ¬ StandsAt (Alike caseInsensitive "a.b".toList) "axb A.Ba.b".toList j := by
    intro j hj hstands
    obtain rfl : j = 10 := Nat.le_antisymm hstands.le hj
    exact hnot (standsAt_alike_iff.mp hstands).2
  have hbefore : ∀ j < 7, ¬ StandsAt (Alike false "a.b".toList) "axb A.Ba.b".toList j := by decide
  have hbefore' : ∀ j < 4, ¬ StandsAt (Alike true "a.b".toList) "axb A.Ba.b".toList j := by decide
  refine ⟨hfits, hfolded, ⟨rule, hsame.trans hrule, (hspans _ _).mpr ?_⟩,
    ⟨folded, hread, (hfound _ _).mpr ?_⟩⟩
  · exact .next (Nat.zero_le 7) (by decide) (fun j _ hj ↦ hbefore j hj) (.done (hend (by decide)))
  · refine .next (Nat.zero_le 4) (by decide) (fun j _ hj ↦ hbefore' j hj) ?_
    exact .next (Nat.le_refl 7) (by decide) (fun j hj hlt ↦ absurd hlt (Nat.not_lt.mpr hj))
      (.done (hend (by decide)))

end MountSweep.Output
