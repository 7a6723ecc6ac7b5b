import Mathlib.Algebra.Order.Group.Nat
import Mathlib.Tactic.IntervalCases
import Mathlib.Tactic.Ring
import MountSweep.Proofs.Text.Utf8
import MountSweep.Yaml.Scalar

namespace MountSweep.Yaml

/-- A character stands for a digit; from ten on, the digits are letters of either case. -/
def IsDigit (c : Char) (d : ℕ) : Prop :=
  d < 16 ∧ (c = Nat.digitChar d ∨ c = (Nat.digitChar d).toUpper)

/-- Digits in a base, the highest one in front, stand for a number. -/
inductive Digits (base : ℕ) : List Char → ℕ → Prop
  | nil : Digits base [] 0
  | cons {c : Char} {cs : List Char} {d k : ℕ} (hd : IsDigit c d) (hlt : d < base)
      (h : Digits base cs k) : Digits base (c :: cs) (d * base ^ cs.length + k)

def Numeral (base : ℕ) (cs : List Char) (k : ℕ) : Prop := cs ≠ [] ∧ Digits base cs k

/-- A number in one of the four bases. A decimal one has no needless zero in front. -/
inductive Unsigned : List Char → ℕ → Prop
  | hexadecimal {cs : List Char} {k : ℕ} (h : Numeral 16 cs k) : Unsigned ('0' :: 'x' :: cs) k
  | octal {cs : List Char} {k : ℕ} (h : Numeral 8 cs k) : Unsigned ('0' :: 'o' :: cs) k
  | binary {cs : List Char} {k : ℕ} (h : Numeral 2 cs k) : Unsigned ('0' :: 'b' :: cs) k
  | decimal {cs : List Char} {k : ℕ} (h : Numeral 10 cs k)
      (hzero : cs.head? = some '0' → cs = ['0']) : Unsigned cs k

inductive Natural : List Char → ℕ → Prop
  | unsigned {cs : List Char} {k : ℕ} (h : Unsigned cs k) : Natural cs k
  | positive {cs : List Char} {k : ℕ} (h : Unsigned cs k) : Natural ('+' :: cs) k

inductive Integer : List Char → ℤ → Prop
  | natural {cs : List Char} {k : ℕ} (h : Natural cs k) : Integer cs k
  | negative {cs : List Char} {k : ℕ} (h : Unsigned cs k) : Integer ('-' :: cs) (-k)

def Truth (cs : List Char) : Bool → Prop
  | true => String.ofList cs ∈ ["true", "True", "TRUE"]
  | false => String.ofList cs ∈ ["false", "False", "FALSE"]

section

variable {base d k n : ℕ} {c : Char} {cs : List Char} {b : Bool}

theorem isDigit_of_decimal (h : c.isDigit) : IsDigit c (c.toNat - 48) ∧ c.toNat - 48 < 10 := by
  obtain ⟨hlow, hhigh⟩ : 48 ≤ c.toNat ∧ c.toNat ≤ 57 := Char.isDigit_iff_toNat.mp h
  rw [← Char.ofNat_toNat c]
  generalize c.toNat = n at hlow hhigh
  interval_cases n <;> exact ⟨⟨by decide, .inl rfl⟩, by decide⟩

theorem hexDigit?_eq_some_iff : Lexer.hexDigit? c = some d ↔ IsDigit c d := by
  constructor
  · intro h
    unfold Lexer.hexDigit? at h
    split at h
    · next hc =>
      cases h
      exact (isDigit_of_decimal hc).1
    split at h
    · next hc =>
      cases h
      obtain ⟨hlow, hhigh⟩ := hc
      rw [← Char.ofNat_toNat c]
      replace hlow : 97 ≤ c.toNat := hlow
      replace hhigh : c.toNat ≤ 102 := hhigh
      generalize c.toNat = n at hlow hhigh
      interval_cases n <;> exact ⟨by decide, .inl rfl⟩
    split at h
    · next hc =>
      cases h
      obtain ⟨hlow, hhigh⟩ := hc
      rw [← Char.ofNat_toNat c]
      replace hlow : 65 ≤ c.toNat := hlow
      replace hhigh : c.toNat ≤ 70 := hhigh
      generalize c.toNat = n at hlow hhigh
      interval_cases n <;> exact ⟨by decide, .inr rfl⟩
    · cases h
  · rintro ⟨hlt, rfl | rfl⟩ <;> interval_cases d <;> rfl

theorem IsDigit.isDigit (h : IsDigit c d) (hlt : d < 10) : c.isDigit := by
  obtain ⟨-, rfl | rfl⟩ := h <;> interval_cases d <;> rfl

theorem IsDigit.unique {d' : ℕ} (h : IsDigit c d) (h' : IsDigit c d') : d = d' :=
  Option.some.inj ((hexDigit?_eq_some_iff.mpr h).symm.trans (hexDigit?_eq_some_iff.mpr h'))

theorem Digits.isDigit (h : Digits 10 cs k) : ∀ c ∈ cs, c.isDigit := by
  induction h with
  | nil => exact List.forall_mem_nil _
  | cons hd hlt _ ih => exact List.forall_mem_cons.mpr ⟨hd.isDigit hlt, ih⟩

theorem Digits.unique {k' : ℕ} (h : Digits base cs k) (h' : Digits base cs k') : k = k' := by
  induction h generalizing k' with
  | nil =>
    cases h'
    rfl
  | cons hd _ _ ih =>
    cases h' with
    | cons hd' _ h' => rw [hd.unique hd', ih h']

theorem digits_iff_foldlM (n : ℕ) :
    cs.foldlM (fun n c ↦ match Lexer.hexDigit? c with
      | some d => if d < base then some (n * base + d) else none
      | none => none) n = some k ↔
      ∃ k', Digits base cs k' ∧ k = n * base ^ cs.length + k' := by
  induction cs generalizing n with
  | nil =>
    constructor
    · rintro h
      cases h
      exact ⟨0, .nil, by simp⟩
    · rintro ⟨k', h, rfl⟩
      cases h
      simp
  | cons c cs ih =>
    rw [List.foldlM_cons]
    constructor
    · intro h
      obtain ⟨m, hm, h⟩ := Option.bind_eq_some_iff.mp h
      split at hm
      · next d hd =>
        split at hm
        · next hlt =>
          cases hm
          obtain ⟨k', hk, rfl⟩ := (ih _).mp h
          refine ⟨_, .cons (hexDigit?_eq_some_iff.mp hd) hlt hk, ?_⟩
          rw [List.length_cons]
          ring
        · cases hm
      · cases hm
    · rintro ⟨k', h, rfl⟩
      cases h with
      | @cons _ _ d k' hd hlt h =>
        rw [hexDigit?_eq_some_iff.mpr hd]
        simp only [hlt, if_true]
        refine (ih _).mpr ⟨k', h, ?_⟩
        rw [List.length_cons]
        ring

theorem digitsValue?_eq_some_iff : digitsValue? base cs = some k ↔ Numeral base cs k := by
  cases cs with
  | nil => simp [digitsValue?, Numeral]
  | cons c cs =>
    refine (digits_iff_foldlM 0).trans ?_
    simp [Numeral]

theorem hasLeadingZero_eq_false_iff (h : Numeral 10 cs k) :
    hasLeadingZero cs = false ↔ (cs.head? = some '0' → cs = ['0']) := by
  obtain ⟨hne, h⟩ := h
  obtain _ | ⟨c, cs⟩ := cs
  · exact absurd rfl hne
  obtain ⟨hc, hcs⟩ := List.forall_mem_cons.mp h.isDigit
  have hsign : ¬ (c = '-' ∨ c = '+') := by
    rintro (rfl | rfl) <;> cases hc
  unfold hasLeadingZero
  simp only [hsign, if_false]
  by_cases hzero : c = '0'
  · subst hzero
    simp [List.all_eq_true.mpr hcs]
  · split
    · next heq =>
      cases heq
      exact absurd rfl hzero
    · simp [hzero]

theorem unsignedDigits?_decimal (h : Numeral 10 cs k) :
    unsignedDigits? cs = if hasLeadingZero cs then none else digitsValue? 10 cs := by
  have hdigit := h.2.isDigit
  unfold unsignedDigits?
  split
  · exact absurd (hdigit 'x' (by simp)) (by decide)
  · exact absurd (hdigit 'o' (by simp)) (by decide)
  · exact absurd (hdigit 'b' (by simp)) (by decide)
  · rfl

theorem unsignedDigits?_eq_some_iff : unsignedDigits? cs = some k ↔ Unsigned cs k := by
  constructor
  · intro h
    unfold unsignedDigits? at h
    split at h
    · exact .hexadecimal (digitsValue?_eq_some_iff.mp h)
    · exact .octal (digitsValue?_eq_some_iff.mp h)
    · exact .binary (digitsValue?_eq_some_iff.mp h)
    · split at h
      · cases h
      · next hzero =>
        have hk := digitsValue?_eq_some_iff.mp h
        exact .decimal hk ((hasLeadingZero_eq_false_iff hk).mp (by simpa using hzero))
  · intro h
    cases h with
    | hexadecimal h => exact digitsValue?_eq_some_iff.mpr h
    | octal h => exact digitsValue?_eq_some_iff.mpr h
    | binary h => exact digitsValue?_eq_some_iff.mpr h
    | decimal h hzero =>
      rw [unsignedDigits?_decimal h, (hasLeadingZero_eq_false_iff h).mpr hzero]
      exact digitsValue?_eq_some_iff.mpr h

theorem Unsigned.isDigit_head (h : Unsigned cs k) : ∃ c rest, cs = c :: rest ∧ c.isDigit := by
  cases h with
  | hexadecimal | octal | binary => exact ⟨'0', _, rfl, rfl⟩
  | decimal h =>
    obtain ⟨hne, h⟩ := h
    obtain _ | ⟨c, cs⟩ := cs
    · exact absurd rfl hne
    · exact ⟨c, cs, rfl, h.isDigit c List.mem_cons_self⟩

theorem natValue?_eq_some_iff : natValue? cs = some k ↔ Natural cs k := by
  constructor
  · intro h
    unfold natValue? at h
    split at h
    · exact .positive (unsignedDigits?_eq_some_iff.mp h)
    · exact .unsigned (unsignedDigits?_eq_some_iff.mp h)
  · intro h
    cases h with
    | unsigned h =>
      obtain ⟨c, rest, rfl, hc⟩ := h.isDigit_head
      unfold natValue?
      split
      · next heq =>
        cases heq
        cases hc
      · exact unsignedDigits?_eq_some_iff.mpr h
    | positive h => exact unsignedDigits?_eq_some_iff.mpr h

theorem intValue?_eq_some_iff {i : ℤ} : intValue? cs = some i ↔ Integer cs i := by
  constructor
  · intro h
    unfold intValue? at h
    split at h <;> obtain ⟨k, hk, rfl⟩ := Option.map_eq_some_iff.mp h <;>
      rw [unsignedDigits?_eq_some_iff] at hk
    · exact .natural (.positive hk)
    · exact .negative hk
    · exact .natural (.unsigned hk)
  · intro h
    cases h with
    | natural h =>
      cases h with
      | unsigned h =>
        obtain ⟨c, rest, rfl, hc⟩ := h.isDigit_head
        unfold intValue?
        split
        · next heq =>
          cases heq
          cases hc
        · next heq =>
          cases heq
          cases hc
        · rw [unsignedDigits?_eq_some_iff.mpr h]
          rfl
      | positive h => simp [intValue?, unsignedDigits?_eq_some_iff.mpr h]
    | negative h => simp [intValue?, unsignedDigits?_eq_some_iff.mpr h]

theorem any_toList_iff {ss : List String} :
    ss.any (·.toList = cs) = true ↔ String.ofList cs ∈ ss := by
  rw [List.any_eq_true]
  constructor
  · rintro ⟨s, hs, heq⟩
    rwa [← of_decide_eq_true heq, String.ofList_toList]
  · intro hs
    exact ⟨_, hs, decide_eq_true String.toList_ofList⟩

theorem not_truth_both (ht : Truth cs true) : ¬ Truth cs false := by
  simp only [Truth, List.mem_cons, List.not_mem_nil, or_false] at ht ⊢
  rcases ht with h | h | h <;> rw [h] <;> decide

theorem boolValue?_eq_some_iff : boolValue? cs = some b ↔ Truth cs b := by
  unfold boolValue?
  simp only [any_toList_iff]
  split
  · next ht =>
    cases b with
    | true => exact iff_of_true rfl ht
    | false => exact iff_of_false nofun (not_truth_both ht)
  · next ht =>
    cases b with
    | true => exact iff_of_false (by split <;> nofun) ht
    | false =>
      show _ ↔ String.ofList cs ∈ _
      split <;> simp_all

theorem isNull_iff : isNull cs = true ↔ String.ofList cs ∈ ["null", "Null", "NULL", "~"] :=
  any_toList_iff

theorem Integer.not_truth {i : ℤ} (h : Integer cs i) : ¬ Truth cs b := by
  intro hb
  have hi := intValue?_eq_some_iff.mpr h
  have hone : String.ofList cs ∈ ["true", "True", "TRUE"] ++ ["false", "False", "FALSE"] := by
    cases b with
    | true => exact List.mem_append_left _ hb
    | false => exact List.mem_append_right _ hb
  have hnone : ∀ s ∈ ["true", "True", "TRUE"] ++ ["false", "False", "FALSE"],
      intValue? s.toList = none := by decide
  have hcs := hnone _ hone
  rw [String.toList_ofList, hi] at hcs
  cases hcs

end

/-- No tag says what a scalar stands for: a tag that there is has an exclamation mark, but no text
behind it. -/
def Untagged (tag : Option Bytes) : Prop := ∀ t ∈ tag, ∃ bs, t = 0x21 :: bs ∧ ¬ Bytes.IsText bs

/-- A scalar stands for what it spells, by its tag or because it is plain. -/
def Resolved (kind : String) (tag : Option Bytes) (style : ScalarStyle) : Prop :=
  tag = some (coreTag kind) ∨ Untagged tag ∧ style = .plain

/-- Plain text spells nothing else; other text may spell anything. -/
structure IsPlainText (cs : List Char) : Prop where
  ne_nil : cs ≠ []
  not_null : String.ofList cs ∉ ["null", "Null", "NULL", "~"]
  not_truth (b : Bool) : ¬ Truth cs b
  not_fits {i : ℤ} (hi : Integer cs i) : i < -2 ^ 127 ∨ 2 ^ 128 ≤ i

inductive IsText (tag : Option Bytes) (cs : List Char) (style : ScalarStyle) : Prop
  | untagged (htag : Untagged tag) (h : style = .plain → IsPlainText cs)
  | tagged {t : Bytes} (htag : tag = some t) (hhead : t.head? ≠ some 0x21)
      (hcore : ∀ kind ∈ ["bool", "int", "float", "null"], t ≠ coreTag kind)

def Scalar.Meant (tag : Option Bytes) (cs : List Char) (style : ScalarStyle) : Scalar → Prop
  | .bool b => Resolved "bool" tag style ∧ Truth cs b
  | .int i => Resolved "int" tag style ∧ Integer cs i
  | .text cs' => cs' = cs ∧ IsText tag cs style
  | .null | .float => True

section

variable {tag : Option Bytes} {cs : List Char} {style : ScalarStyle} {x : Scalar}

theorem ofPlain_meant (htag : Untagged tag) : (Scalar.ofPlain cs).Meant tag cs .plain := by
  unfold Scalar.ofPlain
  split
  · trivial
  next hnull =>
  split
  · next b hb => exact ⟨.inr ⟨htag, rfl⟩, boolValue?_eq_some_iff.mp hb⟩
  next hbool =>
  split
  · next i hi =>
    exact ⟨.inr ⟨htag, rfl⟩, intValue?_eq_some_iff.mp (Option.filter_eq_some_iff.mp hi).1⟩
  next hint =>
  split
  · trivial
  · obtain ⟨hne, hnull⟩ := not_or.mp hnull
    refine ⟨rfl, .untagged htag fun _ ↦ ⟨hne, fun h ↦ hnull (isNull_iff.mpr h), fun b hb ↦ ?_,
      fun {i} hi ↦ ?_⟩⟩
    · rw [boolValue?_eq_some_iff.mpr hb] at hbool
      cases hbool
    · rw [intValue?_eq_some_iff.mpr hi] at hint
      have hfits : ¬ fits128 i := by simpa using hint
      simp only [fits128, Bool.and_eq_true, decide_eq_true_eq] at hfits
      omega

theorem ofUntagged_meant (htag : Untagged tag) :
    (Scalar.ofUntagged cs style).Meant tag cs style := by
  unfold Scalar.ofUntagged
  split
  · next hplain => exact hplain ▸ ofPlain_meant htag
  · next hplain => exact ⟨rfl, .untagged htag fun h ↦ absurd h hplain⟩

theorem isLocalTag_cons {bs : Bytes} : isLocalTag (0x21 :: bs) = true ↔ Bytes.IsText bs := by
  have htext : (Text.Utf8.decode? bs).isSome ↔ Bytes.IsText bs := by
    rw [← Option.isSome_map (f := String.ofList), Option.isSome_iff_exists]
    exact exists_congr fun s ↦ Bytes.toString?_eq_some_iff
  simpa [isLocalTag] using htext

theorem ofTagged?_meant (h : Scalar.ofTagged? tag cs style = some x) : x.Meant tag cs style := by
  unfold Scalar.ofTagged? at h
  split at h
  · cases h
    exact ofUntagged_meant nofun
  next t =>
  split at h
  · cases h
  next hlocal =>
  split at h
  · next hhead =>
    cases h
    obtain ⟨bs, rfl⟩ : ∃ bs, t = 0x21 :: bs := List.head?_eq_some_iff.mp hhead
    refine ofUntagged_meant ?_
    rintro _ ⟨⟩
    exact ⟨bs, rfl, fun htext ↦ hlocal (isLocalTag_cons.mpr htext)⟩
  next hhead =>
  split at h
  · next hbool =>
    obtain ⟨b, hb, rfl⟩ := Option.map_eq_some_iff.mp h
    exact ⟨.inl (congrArg some hbool), boolValue?_eq_some_iff.mp hb⟩
  next hbool =>
  split at h
  · next hint =>
    obtain ⟨i, hi, rfl⟩ := Option.map_eq_some_iff.mp h
    exact ⟨.inl (congrArg some hint), intValue?_eq_some_iff.mp (Option.filter_eq_some_iff.mp hi).1⟩
  next hint =>
  split at h
  · split at h <;> cases h
    trivial
  next hfloat =>
  split at h
  · split at h <;> cases h
    trivial
  next hnull =>
  cases h
  exact ⟨rfl, .tagged rfl hhead (by simp [hbool, hint, hfloat, hnull])⟩

theorem Resolved.isPlainText {kind : String} (h : Resolved kind tag style)
    (hkind : kind ∈ ["bool", "int", "float", "null"]) (htext : IsText tag cs style) :
    IsPlainText cs := by
  have hhead : (coreTag kind).head? = some 0x74 := by
    rw [coreTag, Bytes.ofString_append]
    rfl
  cases htext with
  | untagged htag hplain =>
    rcases h with h | ⟨-, h⟩
    · obtain ⟨bs, hbs, -⟩ := htag _ h
      rw [hbs] at hhead
      cases hhead
    · exact hplain h
  | tagged htag hne hcore =>
    rcases h with h | ⟨h, -⟩
    · exact absurd (Option.some.inj (htag.symm.trans h)) (hcore kind hkind)
    · obtain ⟨bs, rfl, -⟩ := h _ htag
      exact absurd rfl hne

end

end MountSweep.Yaml
