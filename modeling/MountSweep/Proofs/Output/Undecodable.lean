import MountSweep.Proofs.Output.Verdict
import MountSweep.Proofs.Text.Reading

namespace MountSweep

namespace Unicode

open Text.Utf8

theorem not_isWord_replacement : ¬ isWord replacement := by decide +kernel

theorem toNat_of_isAlpha_toLower {c : Char} (h : c.toLower.isAlpha) : c.toNat < 0x80 := by
  have hlower := (toNat_of_isAlpha h).2
  unfold Char.toLower at hlower
  split at hlower
  · next hupper =>
    obtain ⟨-, hle⟩ := hupper
    rw [UInt32.le_iff_toNat_le] at hle
    exact Nat.lt_of_le_of_lt hle (by decide)
  · omega

end Unicode

namespace Output

open Regex Unicode Text.Utf8

def AsciiSpelling (t : List Char) (k : String) : Prop := t.map Char.toLower = k.toList

instance (t : List Char) (k : String) : Decidable (AsciiSpelling t k) :=
  inferInstanceAs (Decidable (_ = _))

namespace AsciiSpelling

variable {t : List Char} {k : String}

theorem ascii (h : AsciiSpelling t k) (hk : k ∈ keywords) : ∀ c ∈ t, c.toNat < 0x80 := by
  intro c hc
  have hmem : c.toLower ∈ k.toList := h ▸ List.mem_map_of_mem hc
  exact toNat_of_isAlpha_toLower (isAlpha_of_mem_keywords hk _ hmem)

theorem spells (h : AsciiSpelling t k) (hk : k ∈ keywords) : Spells t k := by
  have hfold : ∀ k ∈ keywords, k.toList.map fold = k.toList := by decide +kernel
  rw [Spells, hfold k hk, ← h]
  exact List.map_congr_left fun c hc ↦ if_pos (h.ascii hk c hc)

end AsciiSpelling

theorem isSuffix_of_isWord {xs : Bytes} {c : Char} (hlast : (decodeLossy xs).getLast? = some c)
    (hc : isWord c) : String.utf8EncodeChar c <:+ xs :=
  (reads_decodeLossy xs).isSuffix hlast fun h ↦ not_isWord_replacement (h ▸ hc)

/-- A part of a word at the beginning of a text is encoded by the first of its bytes. -/
theorem isPrefix_of_isWord {ys : Bytes} {c : Char} (hfirst : (decodeLossy ys).head? = some c)
    (hc : isWord c) : String.utf8EncodeChar c <+: ys := by
  obtain ⟨cs, hcs⟩ := List.head?_eq_some_iff.mp hfirst
  have hreads := reads_decodeLossy ys
  rw [hcs] at hreads
  exact hreads.isPrefix fun h ↦ not_isWord_replacement (h ▸ hc)

namespace Surveillance

theorem residual_empty (c : Captured) :
    ({} : Surveillance).residual c = (c.text .stdout, c.text .stderr) := rfl

/-- Without rules, a keyword that stands alone in the text of a stream has the output rejected. -/
theorem rejected_of_occurs {c : Captured} {stream : Stream} {pre m post : List Char}
    (h : Language.Occurs WholeKeyword (c.text stream) pre m post) :
    ∃ x, ({} : Surveillance).classify c = .error x := by
  cases hc : ({} : Surveillance).classify c with
  | error x => exact ⟨x, rfl⟩
  | ok =>
    have hh := (classify_eq_ok_iff (residual_empty c)).mp hc
    cases stream with
    | stdout => exact absurd h (hh.wordOnOut pre m post)
    | stderr => exact absurd h (hh.wordOnErr pre m post)

/-- Bytes `xs`, a keyword in ASCII letters of any case and bytes `ys` are decoded one by one. So the
keyword is found unless the text of `xs` ends, or that of `ys` begins, with a part of a word.
Neither a replacement character nor anything but all the bytes of a character is such a part. -/
theorem undecodable_bytes_hide_nothing (xs ys : Bytes) {t : List Char} {k : String}
    (hk : k ∈ keywords) (ht : AsciiSpelling t k) :
    decodeLossy (xs ++ Bytes.ofChars t ++ ys) = decodeLossy xs ++ t ++ decodeLossy ys ∧
      ¬ isWord replacement ∧
      (∀ c ∈ (decodeLossy xs).getLast?, isWord c → String.utf8EncodeChar c <:+ xs) ∧
      (∀ c ∈ (decodeLossy ys).head?, isWord c → String.utf8EncodeChar c <+: ys) ∧
      ((∀ c ∈ (decodeLossy xs).getLast?, ¬ isWord c) →
        (∀ c ∈ (decodeLossy ys).head?, ¬ isWord c) →
        ∀ (c : Captured) (stream : Stream), c.bytes stream = xs ++ Bytes.ofChars t ++ ys →
          ∃ x, ({} : Surveillance).classify c = .error x) := by
  have hspell : Spells t k := ht.spells hk
  have htext : decodeLossy (xs ++ Bytes.ofChars t ++ ys) = decodeLossy xs ++ t ++ decodeLossy ys :=
    decodeLossy_append_ascii (hspell.ne_nil hk) (ht.ascii hk) xs ys
  refine ⟨htext, not_isWord_replacement, fun _ ↦ isSuffix_of_isWord, fun _ ↦ isPrefix_of_isWord,
    fun hbefore hafter c stream hc ↦ ?_⟩
  have hwhole : WholeKeyword (decodeLossy xs).getLast? t (decodeLossy ys).head? :=
    ⟨hspell.ne_nil hk, hspell.isWord hk, hbefore, hafter, k, hk, hspell⟩
  have htextc : c.text stream = decodeLossy xs ++ t ++ decodeLossy ys := by
    rw [Captured.text, hc, htext]
  exact rejected_of_occurs ⟨htextc, hwhole⟩

/-- A keyword between a character that is cut off after two of its three bytes and a byte that is in
no text. -/
theorem keyword_behind_cut_character :
    "crashed" ∈ keywords ∧ AsciiSpelling "CRASHed".toList "crashed" ∧
      decodeLossy ([0xE2, 0x82] ++ Bytes.ofChars "CRASHed".toList ++ [0xFF]) =
        replacement :: "CRASHed".toList ++ [replacement] ∧
      ∃ x, ({} : Surveillance).classify
        ⟨[], [0xE2, 0x82] ++ Bytes.ofChars "CRASHed".toList ++ [0xFF]⟩ = .error x := by
  have hk : "crashed" ∈ keywords := by decide
  have ht : AsciiSpelling "CRASHed".toList "crashed" := by decide
  obtain ⟨htext, hreplacement, -, -, hrejected⟩ :=
    undecodable_bytes_hide_nothing [0xE2, 0x82] [0xFF] hk ht
  have hxs : decodeLossy [0xE2, 0x82] = [replacement] := by decide
  have hys : decodeLossy [0xFF] = [replacement] := by decide
  refine ⟨hk, ht, by rw [htext, hxs, hys]; rfl, ?_⟩
  refine hrejected ?_ ?_ ⟨[], _⟩ .stderr rfl
  · rw [hxs]
    rintro _ ⟨⟩
    exact hreplacement
  · rw [hys]
    rintro _ ⟨⟩
    exact hreplacement

end Surveillance

end Output

end MountSweep
