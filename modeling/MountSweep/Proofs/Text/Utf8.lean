import Mathlib.Data.List.Basic
import MountSweep.Text.Utf8

namespace MountSweep

theorem Bytes.ofChars_cons (c : Char) (cs : List Char) :
    ofChars (c :: cs) = String.utf8EncodeChar c ++ ofChars cs := List.flatMap_cons

namespace Text.Utf8

variable {st : State} {b : UInt8} {bs rest : Bytes} {value : ℕ} {low high : UInt8}

theorem decodeFrom_cons (st : State) (b : UInt8) (bs : Bytes) :
    decodeFrom st (b :: bs) = (step st b).1 ++ decodeFrom (step st b).2 bs := rfl

-- The range `low` to `high` holds for the next byte only, so it is generalized over the induction.
theorem decodeFrom_inside (hlow : low ≤ b) (hhigh : b ≤ high)
    (hbs : ∀ t ∈ bs, 0x80 ≤ t ∧ t ≤ 0xBF) :
    decodeFrom (.inside (bs.length + 1) value low high) (b :: bs ++ rest) =
      Char.ofNat ((b :: bs).foldl (fun v t ↦ v * 0x40 + t.toNat % 0x40) value) ::
        decodeFrom .between rest := by
  induction bs generalizing b value low high with
  | nil => simp [decodeFrom_cons, step, hlow, hhigh]
  | cons t bs ih =>
    obtain ⟨ht, hbs⟩ := List.forall_mem_cons.mp hbs
    have hstep : step (.inside (bs.length + 2) value low high) b =
        ([], .inside (bs.length + 1) (value * 0x40 + b.toNat % 0x40) 0x80 0xBF) := by
      simp [step, hlow, hhigh]
    rw [List.cons_append, List.length_cons, decodeFrom_cons, hstep, List.foldl_cons]
    exact ih ht.1 ht.2 hbs

theorem toNat_ofNat {n : ℕ} (h : n < 256) : (UInt8.ofNat n).toNat = n :=
  UInt8.toNat_ofNat_of_lt' h

theorem begin_eq (b : UInt8) : begin b =
    if b.toNat < 0x80 then ([Char.ofNat b.toNat], .between)
    else if 0xC2 ≤ b.toNat ∧ b.toNat ≤ 0xDF then ([], .inside 1 (b.toNat % 0x20) 0x80 0xBF)
    else if b.toNat = 0xE0 then ([], .inside 2 0 0xA0 0xBF)
    else if b.toNat = 0xED then ([], .inside 2 0xD 0x80 0x9F)
    else if 0xE1 ≤ b.toNat ∧ b.toNat ≤ 0xEF then ([], .inside 2 (b.toNat % 0x10) 0x80 0xBF)
    else if b.toNat = 0xF0 then ([], .inside 3 0 0x90 0xBF)
    else if 0xF1 ≤ b.toNat ∧ b.toNat ≤ 0xF3 then ([], .inside 3 (b.toNat % 0x08) 0x80 0xBF)
    else if b.toNat = 0xF4 then ([], .inside 3 4 0x80 0x8F)
    else ([replacement], .between) := by
  simp only [begin, UInt8.lt_iff_toNat_lt, UInt8.le_iff_toNat_le, ← UInt8.toNat_inj]
  rfl

def tail (n : ℕ) : UInt8 := UInt8.ofNat (n % 0x40 + 0x80)

theorem toNat_tail (n : ℕ) : (tail n).toNat = n % 0x40 + 0x80 := toNat_ofNat (by omega)

theorem le_tail {low : UInt8} {n : ℕ} (h : low.toNat ≤ n % 0x40 + 0x80) : low ≤ tail n := by
  rw [UInt8.le_iff_toNat_le, toNat_tail]
  exact h

theorem tail_le {high : UInt8} {n : ℕ} (h : n % 0x40 + 0x80 ≤ high.toNat) : tail n ≤ high := by
  rw [UInt8.le_iff_toNat_le, toNat_tail]
  exact h

theorem tail_range (n : ℕ) : 0x80 ≤ tail n ∧ tail n ≤ 0xBF :=
  ⟨le_tail (Nat.le_add_left _ _), tail_le (by simp; omega)⟩

/-- A first byte that owes `n + 1` others, of which the next is `b`. -/
def Leads (lead : UInt8) (n value : ℕ) (b : UInt8) : Prop :=
  ∃ low high, begin lead = ([], .inside (n + 1) value low high) ∧ low ≤ b ∧ b ≤ high

theorem Leads.decodeFrom {lead : UInt8} (bs : Bytes) (h : Leads lead bs.length value b)
    (hbs : ∀ t ∈ bs, 0x80 ≤ t ∧ t ≤ 0xBF) :
    decodeFrom .between (lead :: b :: bs ++ rest) =
      Char.ofNat ((b :: bs).foldl (fun v t ↦ v * 0x40 + t.toNat % 0x40) value) ::
        Utf8.decodeFrom .between rest := by
  obtain ⟨low, high, hbegin, hlow, hhigh⟩ := h
  rw [List.cons_append, decodeFrom_cons, step, hbegin]
  exact decodeFrom_inside hlow hhigh hbs

theorem leads_two {n : ℕ} (hlow : 0x80 ≤ n) (hhigh : n ≤ 0x7FF) :
    Leads (UInt8.ofNat (n / 64 % 0x20 + 0xC0)) 0 (n / 64) (tail n) := by
  have hlead := toNat_ofNat (n := n / 64 % 0x20 + 0xC0) (by omega)
  refine ⟨0x80, 0xBF, ?_, tail_range n⟩
  rw [begin_eq, hlead, if_neg (by omega), if_pos (by omega)]
  congr 2
  omega

theorem leads_three {n : ℕ} (hlow : 0x800 ≤ n) (hhigh : n ≤ 0xFFFF)
    (hvalid : n < 0xD800 ∨ 0xDFFF < n) :
    Leads (UInt8.ofNat (n / 4096 % 0x10 + 0xE0)) 1 (n / 4096) (tail (n / 64)) := by
  have hlead := toNat_ofNat (n := n / 4096 % 0x10 + 0xE0) (by omega)
  -- The first two ranges keep out characters that two bytes could hold, and surrogates.
  by_cases hshort : n / 4096 = 0
  · refine ⟨0xA0, 0xBF, ?_, le_tail (by simp; omega), (tail_range _).2⟩
    rw [begin_eq, hlead, if_neg (by omega), if_neg (by omega), if_pos (by omega), hshort]
  by_cases hsurrogate : n / 4096 = 13
  · refine ⟨0x80, 0x9F, ?_, (tail_range _).1, tail_le (by simp; omega)⟩
    rw [begin_eq, hlead, if_neg (by omega), if_neg (by omega), if_neg (by omega),
      if_pos (by omega), hsurrogate]
  · refine ⟨0x80, 0xBF, ?_, tail_range _⟩
    rw [begin_eq, hlead, if_neg (by omega), if_neg (by omega), if_neg (by omega),
      if_neg (by omega), if_pos (by omega)]
    congr 2
    omega

theorem leads_four {n : ℕ} (hlow : 0x10000 ≤ n) (hhigh : n ≤ 0x10FFFF) :
    Leads (UInt8.ofNat (n / 262144 % 0x08 + 0xF0)) 2 (n / 262144) (tail (n / 4096)) := by
  have hlead := toNat_ofNat (n := n / 262144 % 0x08 + 0xF0) (by omega)
  -- Here they keep out what three bytes could hold, and what is beyond the last character.
  by_cases hshort : n / 262144 = 0
  · refine ⟨0x90, 0xBF, ?_, le_tail (by simp; omega), (tail_range _).2⟩
    rw [begin_eq, hlead, if_neg (by omega), if_neg (by omega), if_neg (by omega),
      if_neg (by omega), if_neg (by omega), if_pos (by omega), hshort]
  by_cases hend : n / 262144 = 4
  · refine ⟨0x80, 0x8F, ?_, (tail_range _).1, tail_le (by simp; omega)⟩
    rw [begin_eq, hlead, if_neg (by omega), if_neg (by omega), if_neg (by omega),
      if_neg (by omega), if_neg (by omega), if_neg (by omega), if_neg (by omega),
      if_pos (by omega), hend]
  · refine ⟨0x80, 0xBF, ?_, tail_range _⟩
    rw [begin_eq, hlead, if_neg (by omega), if_neg (by omega), if_neg (by omega),
      if_neg (by omega), if_neg (by omega), if_neg (by omega), if_pos (by omega)]
    congr 2
    omega

theorem encode_eq (c : Char) : String.utf8EncodeChar c =
    if c.toNat ≤ 0x7F then [UInt8.ofNat c.toNat]
    else if c.toNat ≤ 0x7FF then [UInt8.ofNat (c.toNat / 64 % 0x20 + 0xC0), tail c.toNat]
    else if c.toNat ≤ 0xFFFF then
      [UInt8.ofNat (c.toNat / 4096 % 0x10 + 0xE0), tail (c.toNat / 64), tail c.toNat]
    else
      [UInt8.ofNat (c.toNat / 262144 % 0x08 + 0xF0), tail (c.toNat / 4096), tail (c.toNat / 64),
        tail c.toNat] := rfl

theorem decodeFrom_encode (c : Char) (rest : Bytes) :
    decodeFrom .between (String.utf8EncodeChar c ++ rest) = c :: decodeFrom .between rest := by
  have hvalid : c.toNat < 0xD800 ∨ 0xDFFF < c.toNat ∧ c.toNat < 0x110000 := c.valid
  conv_rhs => rw [← Char.ofNat_toNat c]
  rw [encode_eq]
  generalize c.toNat = n at *
  split_ifs with hone htwo hthree
  · have hbyte := toNat_ofNat (n := n) (by omega)
    rw [List.singleton_append, decodeFrom_cons, step, begin_eq, hbyte, if_pos (by omega)]
    rfl
  · refine (Leads.decodeFrom [] (leads_two (by omega) htwo) nofun).trans ?_
    simp only [List.foldl_cons, List.foldl_nil, toNat_tail]
    congr 2
    omega
  · refine (Leads.decodeFrom [tail n] (leads_three (by omega) hthree (by omega))
      (List.forall_mem_singleton.mpr (tail_range n))).trans ?_
    simp only [List.foldl_cons, List.foldl_nil, toNat_tail]
    congr 2
    omega
  · refine (Leads.decodeFrom [tail (n / 64), tail n] (leads_four (by omega) (by omega))
      (by simp [tail_range])).trans ?_
    simp only [List.foldl_cons, List.foldl_nil, toNat_tail]
    congr 2
    omega

theorem decodeFrom_ofChars (cs : List Char) (rest : Bytes) :
    decodeFrom .between (Bytes.ofChars cs ++ rest) = cs ++ decodeFrom .between rest := by
  induction cs with
  | nil => rfl
  | cons c cs ih =>
    rw [Bytes.ofChars_cons, List.append_assoc, decodeFrom_encode, ih, List.cons_append]

theorem decodeLossy_ofChars (cs : List Char) : decodeLossy (Bytes.ofChars cs) = cs := by
  simpa [decodeLossy, decodeFrom, finish] using decodeFrom_ofChars cs []

theorem encode_of_ascii {c : Char} (h : c.toNat < 0x80) :
    String.utf8EncodeChar c = [UInt8.ofNat c.toNat] := by
  rw [encode_eq, if_pos (Nat.le_of_lt_succ h)]

def State.Owes : State → Prop
  | .between => True
  | .inside _ _ low _ => 0x80 ≤ low

theorem begin_owes (b : UInt8) : (begin b).2.Owes := by
  unfold begin
  split_ifs <;> simp only [State.Owes] <;> decide

theorem step_owes (b : UInt8) : (step st b).2.Owes := by
  cases st with
  | between => exact begin_owes b
  | inside owed value low high =>
    simp only [step]
    split_ifs
    · trivial
    · exact UInt8.le_refl _
    · exact begin_owes b

theorem begin_of_ascii (hb : b < 0x80) : begin b = ([Char.ofNat b.toNat], .between) := if_pos hb

theorem decodeFrom_append_ascii (hst : st.Owes) (hb : b < 0x80) (xs ys : Bytes) :
    decodeFrom st (xs ++ b :: ys) =
      decodeFrom st xs ++ Char.ofNat b.toNat :: decodeFrom .between ys := by
  induction xs generalizing st with
  | nil =>
    cases st with
    | between => simp [decodeFrom_cons, step, begin_of_ascii hb, decodeFrom, finish]
    | inside owed value low high =>
      have hlow : ¬ (low ≤ b ∧ b ≤ high) := fun h ↦
        absurd (Std.lt_of_le_of_lt (Std.le_trans hst h.1) hb) (by decide)
      simp [decodeFrom_cons, step, hlow, begin_of_ascii hb, decodeFrom, finish]
  | cons x xs ih =>
    rw [List.cons_append, decodeFrom_cons, decodeFrom_cons, ih (step_owes x), List.append_assoc]

theorem decodeLossy_append_ascii {cs : List Char} (hne : cs ≠ []) (hcs : ∀ c ∈ cs, c.toNat < 0x80)
    (xs ys : Bytes) :
    decodeLossy (xs ++ Bytes.ofChars cs ++ ys) = decodeLossy xs ++ cs ++ decodeLossy ys := by
  obtain ⟨c, cs, rfl⟩ := List.exists_cons_of_ne_nil hne
  have hc : c.toNat < 0x80 := hcs c List.mem_cons_self
  have hbyte : (UInt8.ofNat c.toNat).toNat = c.toNat := toNat_ofNat (by omega)
  have hlt : UInt8.ofNat c.toNat < 0x80 := by rwa [UInt8.lt_iff_toNat_lt, hbyte]
  rw [Bytes.ofChars_cons, encode_of_ascii hc, List.append_assoc, List.append_assoc,
    List.singleton_append]
  rw [decodeLossy, decodeFrom_append_ascii (show State.between.Owes from trivial) hlt,
    hbyte, Char.ofNat_toNat, decodeFrom_ofChars, List.append_assoc]
  rfl

end Text.Utf8

namespace Bytes

open Text.Utf8

variable {b : UInt8} {xs ys : Bytes}

theorem ofChars_of_ascii {cs : List Char} (h : ∀ c ∈ cs, c.toNat < 0x80) :
    ofChars cs = cs.map fun c ↦ UInt8.ofNat c.toNat := by
  induction cs with
  | nil => rfl
  | cons c cs ih =>
    obtain ⟨hc, hcs⟩ := List.forall_mem_cons.mp h
    rw [ofChars_cons, encode_of_ascii hc, ih hcs]
    rfl

theorem ofString_append (s t : String) : ofString (s ++ t) = ofString s ++ ofString t := by
  rw [ofString, String.toList_append, ofChars_append]
  rfl

@[simp] theorem display_ofString (s : String) : display (ofString s) = s := by
  rw [display, ofString, decodeLossy_ofChars, String.ofList_toList]

def IsText (p : Bytes) : Prop := ∃ s : String, p = ofString s

theorem ofString_display_iff {p : Bytes} : ofString (display p) = p ↔ IsText p := by
  constructor
  · intro h
    exact ⟨display p, h.symm⟩
  · rintro ⟨s, rfl⟩
    rw [display_ofString]

instance : DecidablePred IsText := fun _ ↦ decidable_of_iff _ ofString_display_iff

theorem toString?_eq_some_iff {bs : Bytes} {s : String} :
    bs.toString? = some s ↔ bs = ofString s := by
  constructor
  · intro h
    obtain ⟨cs, hcs, rfl⟩ := Option.map_eq_some_iff.mp h
    rw [ofString, String.toList_ofList, Text.Utf8.ofChars_of_decode? hcs]
  · rintro rfl
    have hdecode : Text.Utf8.decodeLossy (ofString s) = s.toList := Text.Utf8.decodeLossy_ofChars _
    rw [toString?, Text.Utf8.decode?, hdecode]
    simp [ofString]

theorem isText_append_cons (hb : b < 0x80) (hys : IsText ys) :
    IsText (xs ++ b :: ys) ↔ IsText xs := by
  have hbyte : String.utf8EncodeChar (Char.ofNat b.toNat) = [b] := by
    have hlt : b.toNat < 0x80 := UInt8.lt_iff_toNat_lt.mp hb
    have hvalid : b.toNat.isValidChar := .inl (by omega)
    have hchar : (Char.ofNat b.toNat).toNat = b.toNat := by
      rw [Char.ofNat, dif_pos hvalid]
      rfl
    rw [encode_of_ascii (by omega), hchar, UInt8.ofNat_toNat]
  have hsplit := decodeFrom_append_ascii (show State.between.Owes from trivial) hb
  have hdisplay : ofString (display (xs ++ b :: ys)) =
      ofString (display xs) ++ b :: ofString (display ys) := by
    simp only [display, ofString, String.toList_ofList, decodeLossy,
      hsplit xs ys, ofChars_append]
    rw [ofChars_cons, hbyte]
    rfl
  rw [← ofString_display_iff, ← ofString_display_iff, hdisplay, ofString_display_iff.mpr hys,
    List.append_left_inj]

end Bytes

end MountSweep
