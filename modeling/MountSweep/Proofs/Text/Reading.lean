import MountSweep.Proofs.Text.Utf8

namespace MountSweep.Text.Utf8

variable {st : State} {b t : UInt8} {bs held : Bytes} {c : Char} {value owed : ℕ} {low high : UInt8}

/-- The value of a character when more of its bytes have been read. -/
def extend (value : ℕ) (ts : Bytes) : ℕ := ts.foldl (fun v t ↦ v * 0x40 + t.toNat % 0x40) value

/-- The decoder has read the bytes `held` of a character: whatever bytes in range may follow, up to
the number owed, they complete its encoding. -/
def State.Holds (held : Bytes) : State → Prop
  | .between => held = []
  | .inside owed value low high =>
    0 < owed ∧ ∀ t ts, low ≤ t → t ≤ high → (∀ x ∈ ts, 0x80 ≤ x ∧ x ≤ 0xBF) →
      ts.length + 1 = owed →
      String.utf8EncodeChar (Char.ofNat (extend value (t :: ts))) = held ++ t :: ts

theorem encode_ofNat {n : ℕ} (h : n.isValidChar) : String.utf8EncodeChar (Char.ofNat n) =
    if n ≤ 0x7F then [UInt8.ofNat n]
    else if n ≤ 0x7FF then [UInt8.ofNat (n / 64 % 0x20 + 0xC0), tail n]
    else if n ≤ 0xFFFF then
      [UInt8.ofNat (n / 4096 % 0x10 + 0xE0), tail (n / 64), tail n]
    else
      [UInt8.ofNat (n / 262144 % 0x08 + 0xF0), tail (n / 4096), tail (n / 64), tail n] := by
  have htoNat : (Char.ofNat n).toNat = n := by
    rw [Char.ofNat, dif_pos h]
    rfl
  rw [encode_eq, htoNat]

theorem ofNat_eq {n : ℕ} (h : n = b.toNat) : UInt8.ofNat n = b := by
  rw [h, UInt8.ofNat_toNat]

theorem tail_eq {n : ℕ} (hlow : 0x80 ≤ t.toNat) (hhigh : t.toNat ≤ 0xBF)
    (h : n % 0x40 = t.toNat % 0x40) : tail n = t :=
  ofNat_eq (by omega)

theorem continues_iff : 0x80 ≤ t ∧ t ≤ 0xBF ↔ 0x80 ≤ t.toNat ∧ t.toNat ≤ 0xBF := by
  rw [UInt8.le_iff_toNat_le, UInt8.le_iff_toNat_le]
  rfl

theorem holds_two (hlow : 0xC2 ≤ b.toNat) (hhigh : b.toNat ≤ 0xDF) :
    (State.inside 1 (b.toNat % 0x20) 0x80 0xBF).Holds [b] := by
  refine ⟨by decide, fun t ts ht₁ ht₂ _ hlen ↦ ?_⟩
  obtain rfl : ts = [] := List.length_eq_zero_iff.mp (by omega)
  obtain ⟨ht₁, ht₂⟩ := continues_iff.mp ⟨ht₁, ht₂⟩
  have hn : extend (b.toNat % 0x20) [t] = b.toNat % 0x20 * 0x40 + t.toNat % 0x40 := rfl
  rw [hn, encode_ofNat (.inl (by omega)), if_neg (by omega), if_pos (by omega),
    ofNat_eq (b := b) (by omega), tail_eq ht₁ ht₂ (by omega)]
  rfl

theorem holds_three {lead : ℕ} (hb : b.toNat = 0xE0 + lead) (hlead : lead < 0x10)
    (hlow : 0x80 ≤ low.toNat) (hhigh : high.toNat ≤ 0xBF) (hshort : lead = 0 → 0xA0 ≤ low.toNat)
    (hsurrogate : lead = 0xD → high.toNat ≤ 0x9F) :
    (State.inside 2 lead low high).Holds [b] := by
  refine ⟨by decide, fun t ts ht₁ ht₂ hts hlen ↦ ?_⟩
  obtain ⟨u, rfl⟩ := List.length_eq_one_iff.mp (show ts.length = 1 by omega)
  obtain ⟨hu₁, hu₂⟩ := continues_iff.mp (hts u List.mem_cons_self)
  rw [UInt8.le_iff_toNat_le] at ht₁ ht₂
  have hn : extend lead [t, u] = (lead * 0x40 + t.toNat % 0x40) * 0x40 + u.toNat % 0x40 := rfl
  have hvalid : (extend lead [t, u]).isValidChar := by
    rw [hn]
    by_cases hs : lead < 0xD ∨ lead = 0xD
    · exact .inl (by omega)
    · exact .inr (by omega)
  rw [encode_ofNat hvalid, hn, if_neg (by omega), if_neg (by omega), if_pos (by omega),
    ofNat_eq (b := b) (by omega), tail_eq (t := t) (by omega) (by omega) (by omega),
    tail_eq hu₁ hu₂ (by omega)]
  rfl

theorem holds_four {lead : ℕ} (hb : b.toNat = 0xF0 + lead) (hlead : lead ≤ 4)
    (hlow : 0x80 ≤ low.toNat) (hhigh : high.toNat ≤ 0xBF) (hshort : lead = 0 → 0x90 ≤ low.toNat)
    (hend : lead = 4 → high.toNat ≤ 0x8F) :
    (State.inside 3 lead low high).Holds [b] := by
  refine ⟨by decide, fun t ts ht₁ ht₂ hts hlen ↦ ?_⟩
  obtain ⟨u, w, rfl⟩ := List.length_eq_two.mp (show ts.length = 2 by omega)
  obtain ⟨hu₁, hu₂⟩ := continues_iff.mp (hts u List.mem_cons_self)
  obtain ⟨hw₁, hw₂⟩ := continues_iff.mp (hts w (List.mem_cons_of_mem u List.mem_cons_self))
  rw [UInt8.le_iff_toNat_le] at ht₁ ht₂
  have hn : extend lead [t, u, w] =
      ((lead * 0x40 + t.toNat % 0x40) * 0x40 + u.toNat % 0x40) * 0x40 + w.toNat % 0x40 := rfl
  rw [hn, encode_ofNat (.inr (by omega)), if_neg (by omega), if_neg (by omega), if_neg (by omega),
    ofNat_eq (b := b) (by omega), tail_eq (t := t) (by omega) (by omega) (by omega),
    tail_eq hu₁ hu₂ (by omega), tail_eq hw₁ hw₂ (by omega)]
  rfl

theorem begin_cases (b : UInt8) :
    (∃ c, begin b = ([c], .between) ∧ (c = replacement ∨ String.utf8EncodeChar c = [b])) ∨
      ∃ st, begin b = ([], st) ∧ st.Holds [b] := by
  rw [begin_eq]
  split_ifs with hone htwo hshort hsurrogate hthree hfirst hfour hlast
  · refine .inl ⟨_, rfl, .inr ?_⟩
    rw [encode_ofNat (.inl (by omega)), if_pos (by omega), UInt8.ofNat_toNat]
  · exact .inr ⟨_, rfl, holds_two htwo.1 htwo.2⟩
  · exact .inr ⟨_, rfl, holds_three (by omega) (by omega) (by decide) (by decide) (by decide)
      (by decide)⟩
  · exact .inr ⟨_, rfl, holds_three (by omega) (by omega) (by decide) (by decide) (by decide)
      (by decide)⟩
  · exact .inr ⟨_, rfl, holds_three (by omega) (by omega) (by decide) (by decide) (by omega)
      (by omega)⟩
  · exact .inr ⟨_, rfl, holds_four (by omega) (by omega) (by decide) (by decide) (by decide)
      (by decide)⟩
  · exact .inr ⟨_, rfl, holds_four (by omega) (by omega) (by decide) (by decide) (by omega)
      (by omega)⟩
  · exact .inr ⟨_, rfl, holds_four (by omega) (by omega) (by decide) (by decide) (by decide)
      (by decide)⟩
  · exact .inl ⟨_, rfl, .inl rfl⟩

/-- How bytes are read: as encodings of characters, and malformed parts that are marked. -/
inductive Reads : Bytes → List Char → Prop
  | nil : Reads [] []
  | char (c : Char) {bs : Bytes} {cs : List Char} (h : Reads bs cs) :
      Reads (String.utf8EncodeChar c ++ bs) (c :: cs)
  | malformed (part : Bytes) {bs : Bytes} {cs : List Char} (h : Reads bs cs) :
      Reads (part ++ bs) (replacement :: cs)

theorem decodeFrom_of_outside (h : ¬ (low ≤ b ∧ b ≤ high)) :
    decodeFrom (.inside owed value low high) (b :: bs) =
      replacement :: decodeFrom .between (b :: bs) := by
  simp [decodeFrom_cons, step, h]

theorem reads_begin (b : UInt8)
    (ih : ∀ {st : State} {held : Bytes}, st.Holds held → Reads (held ++ bs) (decodeFrom st bs)) :
    Reads (b :: bs) (decodeFrom .between (b :: bs)) := by
  rw [decodeFrom_cons, step]
  rcases begin_cases b with ⟨c, hb, hc⟩ | ⟨st, hb, hst⟩
  · have hrest : Reads bs (decodeFrom .between bs) := ih (show State.between.Holds [] from rfl)
    rw [hb]
    rcases hc with rfl | hc
    · exact .malformed [b] hrest
    · have h := Reads.char c hrest
      rwa [hc] at h
  · rw [hb]
    exact ih hst

/-- What the decoder makes of bytes is a reading of them, and of those that it held. -/
theorem reads_decodeFrom (h : st.Holds held) : Reads (held ++ bs) (decodeFrom st bs) := by
  induction bs generalizing st held with
  | nil =>
    cases st with
    | between =>
      obtain rfl : held = [] := h
      exact .nil
    | inside => exact .malformed held .nil
  | cons b bs ih =>
    cases st with
    | between =>
      obtain rfl : held = [] := h
      exact reads_begin b ih
    | inside owed value low high =>
      obtain ⟨howed, hmore⟩ := h
      by_cases hrange : low ≤ b ∧ b ≤ high
      · by_cases hone : owed ≤ 1
        · -- the last byte that was owed
          have hstep : step (.inside owed value low high) b =
              ([Char.ofNat (extend value [b])], .between) := by
            rw [step, if_pos hrange, if_pos hone]
            rfl
          have hrest : Reads bs (decodeFrom .between bs) :=
            ih (show State.between.Holds [] from rfl)
          have hchar := Reads.char (Char.ofNat (extend value [b])) hrest
          rw [hmore b [] hrange.1 hrange.2 (List.forall_mem_nil _) (by rw [List.length_nil]; omega),
            List.append_assoc] at hchar
          rw [decodeFrom_cons, hstep]
          exact hchar
        · have hstep : step (.inside owed value low high) b =
              ([], .inside (owed - 1) (extend value [b]) 0x80 0xBF) := by
            rw [step, if_pos hrange, if_neg hone]
            rfl
          have hst : (State.inside (owed - 1) (extend value [b]) 0x80 0xBF).Holds
              (held ++ [b]) := by
            refine ⟨by omega, fun t ts ht₁ ht₂ hts hlen ↦ ?_⟩
            rw [List.append_assoc]
            exact hmore b (t :: ts) hrange.1 hrange.2
              (List.forall_mem_cons.mpr ⟨⟨ht₁, ht₂⟩, hts⟩) (by rw [List.length_cons]; omega)
          have hreads := ih hst
          rw [List.append_assoc] at hreads
          rw [decodeFrom_cons, hstep]
          exact hreads
      · rw [decodeFrom_of_outside hrange]
        exact .malformed held (reads_begin b ih)

theorem reads_decodeLossy (bs : Bytes) : Reads bs (decodeLossy bs) :=
  reads_decodeFrom (show State.between.Holds [] from rfl)

namespace Reads

variable {cs : List Char}

theorem eq_nil (h : Reads bs []) : bs = [] := by
  cases h
  rfl

theorem isPrefix (h : Reads bs (c :: cs)) (hc : c ≠ replacement) :
    String.utf8EncodeChar c <+: bs := by
  cases h with
  | char _ h => exact List.prefix_append _ _
  | malformed => exact absurd rfl hc

theorem isSuffix (h : Reads bs cs) (hlast : cs.getLast? = some c) (hc : c ≠ replacement) :
    String.utf8EncodeChar c <:+ bs := by
  induction h with
  | nil => cases hlast
  | @char d bs cs h ih =>
    cases cs with
    | nil =>
      obtain rfl : d = c := by simpa using hlast
      rw [h.eq_nil]
      exact ⟨[], (List.append_nil _).symm⟩
    | cons e cs =>
      rw [List.getLast?_cons_cons] at hlast
      exact (ih hlast).trans (List.suffix_append _ _)
  | @malformed part bs cs h ih =>
    cases cs with
    | nil => exact absurd (by simpa using hlast.symm) hc
    | cons e cs =>
      rw [List.getLast?_cons_cons] at hlast
      exact (ih hlast).trans (List.suffix_append _ _)

end Reads

end MountSweep.Text.Utf8
