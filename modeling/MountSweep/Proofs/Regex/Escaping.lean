import Mathlib.Data.List.Basic
import MountSweep.Regex.Pattern

namespace MountSweep.Regex

namespace Reader

variable {f : Flags} {names : List (List Char)} {rest : List Char} {fuel : ℕ}
  {branches parts : List Pattern} {c : Char}

theorem run_bind_of_ok {α β : Type} {m : Read α} {k : α → Read β} {s s' : State} {a : α}
    (h : m.run s = .ok (a, s')) : (m >>= k).run s = (k a).run s' := by
  rw [StateT.run_bind, h]
  rfl

theorem run_peek (c : Char) (rest : List Char) :
    peek.run ⟨c :: rest, names, f⟩ = .ok (some c, ⟨c :: rest, names, f⟩) := rfl

theorem run_bump (c : Char) (rest : List Char) :
    bump.run ⟨c :: rest, names, f⟩ = .ok ((), ⟨rest, names, f⟩) := rfl

theorem run_bumpSpace (hf : f.ignoreSpace = false) (rest : List Char) :
    bumpSpace.run ⟨rest, names, f⟩ = .ok ((), ⟨rest, names, f⟩) := by
  show Except.ok ((), if f.ignoreSpace then _ else _) = _
  simp [hf]

def charSet (f : Flags) (c : Char) : CharSet :=
  if !f.caseInsensitive then .single c
  else if f.unicode then .foldsLike c
  else .asciiFolded (.single c)

theorem run_charPattern (s : State) (c : Char) :
    (charPattern c).run s = .ok (.oneOf (charSet s.flags c) 0, s) := by
  obtain ⟨_, _, ⟨caseInsensitive, _, _, _, unicode, _, _⟩⟩ := s
  cases caseInsensitive <;> cases unicode <;> rfl

theorem plain_of_isMeta (hc : isMeta c = true) :
    c.isDigit = false ∧ c ∉ ['x', 'u', 'U', 'p', 'P'] := by
  have h : (['\\', '.', '+', '*', '?', '(', ')', '|', '[', ']', '\x7b', '\x7d', '^', '$', '#', '&',
      '-', '~'].all fun c ↦ !c.isDigit && !(['x', 'u', 'U', 'p', 'P'].contains c)) = true := by
    decide
  simpa using List.all_eq_true.mp h c (List.contains_iff_mem.mp hc)

theorem run_escape (hc : isMeta c = true) :
    escape.run ⟨'\\' :: c :: rest, names, f⟩ = .ok (.char c, ⟨rest, names, f⟩) := by
  obtain ⟨hdigit, hmem⟩ := plain_of_isMeta hc
  simp only [List.mem_cons, List.not_mem_nil, or_false, not_or] at hmem
  obtain ⟨hx, hu, hU, hp, hP⟩ := hmem
  rw [escape, run_bind_of_ok (run_bump _ _), run_bind_of_ok (a := ⟨c :: rest, names, f⟩) rfl]
  refine (run_bind_of_ok (run_peek _ _)).trans ?_
  simp only [hdigit, hx, hu, hU, hp, hP, isEscapable, hc, Bool.false_eq_true, if_false, or_self,
    Bool.true_or, if_true]
  exact run_bind_of_ok (run_bump _ _)

theorem groupBody_char (hc : isMeta c = false) (hf : f.ignoreSpace = false) :
    (groupBody (fuel + 1) branches parts).run ⟨c :: rest, names, f⟩ =
      (groupBody fuel branches (.oneOf (charSet f c) 0 :: parts)).run ⟨rest, names, f⟩ := by
  rw [groupBody, run_bind_of_ok (run_bumpSpace hf _), run_bind_of_ok (run_peek _ _)]
  dsimp only
  split
  -- Of the characters that have a case of their own, each means something.
  any_goals simp [isMeta] at hc
  rw [run_bind_of_ok (run_bump _ _), run_bind_of_ok (run_charPattern _ _)]

theorem groupBody_escape (hc : isMeta c = true) (hf : f.ignoreSpace = false) :
    (groupBody (fuel + 1) branches parts).run ⟨'\\' :: c :: rest, names, f⟩ =
      (groupBody fuel branches (.oneOf (charSet f c) 0 :: parts)).run ⟨rest, names, f⟩ := by
  rw [groupBody, run_bind_of_ok (run_bumpSpace hf _), run_bind_of_ok (run_peek _ _)]
  exact (run_bind_of_ok (run_escape hc)).trans (run_bind_of_ok (run_charPattern _ _))

theorem groupBody_nil (hf : f.ignoreSpace = false) :
    (groupBody (fuel + 1) branches parts).run ⟨[], names, f⟩ =
      .ok (wholeGroup branches parts, ⟨[], names, f⟩) := by
  rw [groupBody, run_bind_of_ok (run_bumpSpace hf _)]
  rfl

theorem groupBody_escaped (hf : f.ignoreSpace = false) {text : List Char}
    (hfuel : text.length < fuel) (names : List (List Char)) (branches parts : List Pattern) :
    (groupBody fuel branches parts).run ⟨escaped text, names, f⟩ =
      .ok (wholeGroup branches ((text.map fun c ↦ .oneOf (charSet f c) 0).reverse ++ parts),
        ⟨[], names, f⟩) := by
  induction text generalizing fuel parts with
  | nil =>
    obtain ⟨fuel, rfl⟩ := Nat.exists_eq_add_one.mpr hfuel
    exact groupBody_nil hf
  | cons c text ih =>
    obtain ⟨fuel, rfl⟩ := Nat.exists_eq_add_one.mpr (Nat.zero_lt_of_lt hfuel)
    have h := ih (Nat.lt_of_succ_lt_succ hfuel) (.oneOf (charSet f c) 0 :: parts)
    rw [List.map_cons, List.reverse_cons, List.append_assoc, List.singleton_append, ← h]
    cases hc : isMeta c with
    | false =>
      have hescaped : escaped (c :: text) = c :: escaped text := by simp [escaped, hc]
      rw [hescaped, groupBody_char hc hf]
    | true =>
      have hescaped : escaped (c :: text) = '\\' :: c :: escaped text := by simp [escaped, hc]
      rw [hescaped, groupBody_escape hc hf]

end Reader

open Reader

variable {f : Flags}

theorem length_le_length_escaped (text : List Char) : text.length ≤ (escaped text).length := by
  induction text with
  | nil => exact Nat.le_refl _
  | cons c text ih =>
    have h : escaped (c :: text) = (if isMeta c then ['\\', c] else [c]) ++ escaped text := rfl
    rw [h, List.length_append, List.length_cons]
    split <;> simp only [List.length_cons, List.length_nil] <;> omega

theorem height_ofParts_le {ps : List Pattern} (hps : ∀ p ∈ ps, p.height = 0) :
    (Pattern.ofParts ps).height ≤ 1 := by
  have hall : Pattern.heightAll ps = 0 := by
    induction ps with
    | nil => rfl
    | cons p ps ih =>
      obtain ⟨hp, hps⟩ := List.forall_mem_cons.mp hps
      rw [Pattern.heightAll, hp, ih hps]
      rfl
  match ps with
  | [] => exact Nat.zero_le _
  | [p] => exact (hps p List.mem_cons_self) ▸ Nat.zero_le 1
  | p :: q :: ps =>
    show Pattern.heightAll (p :: q :: ps) + 1 ≤ 1
    omega

theorem ofChars?_of_run {names : List (List Char)} {text : List Char} {p : Pattern}
    (h : (groupBody (text.length + 1) [] []).run ⟨text, [], f⟩ = .ok (p, ⟨[], names, f⟩))
    (hp : p.height ≤ nestLimit) : Pattern.ofChars? f text = .ok p := by
  rw [Pattern.ofChars?, h]
  show (if ([] : List Char) ≠ [] then throw Fault.groupUnopened
    else if nestLimit < p.height then throw Fault.tooDeep
    else pure p : Except Fault Pattern) = .ok p
  rw [if_neg (not_not_intro rfl), if_neg (Nat.not_lt.mpr hp)]
  rfl

theorem ofChars?_escaped (hf : f.ignoreSpace = false) (text : List Char) :
    Pattern.ofChars? f (escaped text) =
      .ok (.ofParts (text.map fun c ↦ .oneOf (charSet f c) 0)) := by
  have hfuel := Nat.lt_succ_of_le (length_le_length_escaped text)
  have hrun := groupBody_escaped hf hfuel [] [] []
  rw [wholeGroup, List.append_nil, List.reverse_reverse] at hrun
  refine ofChars?_of_run hrun (Nat.le_trans (height_ofParts_le ?_) (by decide))
  simp [Pattern.height]

namespace Plan

theorem sequence_append (ps qs : List Plan) : sequence (ps ++ qs) = sequence ps ++ sequence qs := by
  induction ps with
  | nil => rfl
  | cons p ps ih => rw [List.cons_append, sequence, sequence, ih, List.append_assoc]

theorem sequence_flatMap {parts : Plan → List Plan} (hparts : ∀ p, sequence (parts p) = p.regexes)
    (ps : List Plan) : sequence (ps.flatMap parts) = sequence ps := by
  induction ps with
  | nil => rfl
  | cons p ps ih => rw [List.flatMap_cons, sequence_append, hparts, ih, sequence]

theorem sequence_joinTexts (ps : List Plan) : sequence (joinTexts ps) = sequence ps := by
  induction ps with
  | nil => rfl
  | cons p ps ih =>
    rw [joinTexts, List.foldr_cons, ← joinTexts, sequence, ← ih]
    split
    · rfl
    · next h => simp [h, sequence, regexes]
    · rfl

theorem regexes_ofSeq (ps : List Plan) : (ofSeq ps).regexes = sequence ps := by
  unfold ofSeq
  generalize hqs : List.flatMap _ ps = qs
  have hflat : sequence (joinTexts qs) = sequence ps := by
    rw [sequence_joinTexts, ← hqs]
    exact sequence_flatMap (fun p ↦ by cases p <;> simp [sequence, regexes]) ps
  rw [← hflat]
  split
  · next h => rw [h]; rfl
  · next h => rw [h, sequence, sequence, List.append_nil]
  · rw [regexes]

theorem ofRanges_cases (s : CharSet) (rs : Ranges) :
    ofRanges s rs = .oneOf s rs ∨ ∃ c, ofRanges s rs = .text [(s, c)] := by
  unfold ofRanges
  split
  · split
    · exact .inr ⟨_, rfl⟩
    · exact .inl rfl
  · exact .inl rfl

theorem regexes_ofRanges (s : CharSet) (rs : Ranges) : (ofRanges s rs).regexes = [.oneOf s] := by
  rcases ofRanges_cases s rs with h | ⟨c, h⟩ <;> rw [h] <;> rfl

theorem ofSeq_ofRanges (s : CharSet) (rs : Ranges) : ofSeq [ofRanges s rs] = ofRanges s rs := by
  rcases ofRanges_cases s rs with h | ⟨c, h⟩ <;> rw [h] <;> rfl

/-- The plan of a text whose characters are read under some flags. -/
def ofText (f : Flags) (text : List Char) : Plan :=
  ofSeq (text.map fun c ↦ ofRanges (charSet f c) (charSet f c).ranges)

theorem ofPattern_chars (f : Flags) (text : List Char) :
    ofPattern (.ofParts (text.map fun c ↦ .oneOf (charSet f c) 0)) = ofText f text := by
  have hall : ofPatterns (text.map fun c ↦ .oneOf (charSet f c) 0) =
      text.map fun c ↦ ofRanges (charSet f c) (charSet f c).ranges := by
    induction text with
    | nil => rfl
    | cons c text ih => rw [List.map_cons, ofPatterns, ofPattern, ih, List.map_cons]
  match text with
  | [] => rfl
  | [c] => exact (ofSeq_ofRanges _ _).symm
  | c :: d :: text => exact congrArg ofSeq hall

theorem regex_ofText (f : Flags) (text : List Char) :
    (ofText f text).regex = seqs (text.map fun c ↦ .oneOf (charSet f c)) := by
  rw [regex, ofText, regexes_ofSeq]
  congr 1
  induction text with
  | nil => rfl
  | cons c text ih => rw [List.map_cons, sequence, regexes_ofRanges, ih]; rfl

end Plan

theorem parse?_escaped (hf : f.ignoreSpace = false) (text : List Char) :
    parse? f (escaped text) =
      if (Plan.ofText f text).fits then .ok (seqs (text.map fun c ↦ .oneOf (charSet f c)))
      else .error .tooLarge := by
  rw [parse?, ofChars?_escaped hf, ← Plan.regex_ofText, ← Plan.ofPattern_chars]
  rfl

end MountSweep.Regex
