import MountSweep.Output.Rule
import MountSweep.Proofs.Regex.Spans

namespace MountSweep.Output

open Regex

/-- Matches on standard output and then those on standard error. -/
def inOrder (outs errs : List Span) : List (Stream × Span) :=
  outs.map (.stdout, ·) ++ errs.map (.stderr, ·)

/-- The first matches, as many as an allowance permits; an allowance of zero permits all. -/
def permitted (allowance : ℕ) (ms : List (Stream × Span)) : List (Stream × Span) :=
  ms.take (if allowance = 0 then ms.length else min allowance ms.length)

def onStream (s : Stream) (ms : List (Stream × Span)) : List Span :=
  ms.filterMap fun (t, w) ↦ if t = s then some w else none

section

variable (n : ℕ) (outs errs : List Span)

theorem permitted_eq_take (hn : n ≠ 0) (ms : List (Stream × Span)) :
    permitted n ms = ms.take n := by
  rw [permitted, if_neg hn, ← List.take_eq_take_min]

theorem permitted_zero (ms : List (Stream × Span)) : permitted 0 ms = ms := by
  rw [permitted, if_pos rfl, List.take_length]

theorem onStream_inOrder (s : Stream) :
    onStream s (inOrder outs errs) = match s with | .stdout => outs | .stderr => errs := by
  cases s <;> simp [onStream, inOrder]

theorem take_inOrder :
    (inOrder outs errs).take n = inOrder (outs.take n) (errs.take (n - outs.length)) := by
  simp [inOrder, List.take_append]

end

variable (rule : Rule) (out err : List Char)

theorem strip_of_allowance_eq_zero (h : rule.allowance = 0) :
    rule.strip out err =
      (cut (rule.regex.spans out) out, cut (rule.regex.spans err) err) := by
  rw [Rule.strip, if_pos h, eraseAll_eq_cut, eraseAll_eq_cut]

/-- What is left of the allowance never goes below zero, and only what is left of it is spent on
standard error. -/
theorem strip_of_allowance_ne_zero (h : rule.allowance ≠ 0) :
    rule.strip out err =
      (cut ((rule.regex.spans out).take rule.allowance) out,
        cut ((rule.regex.spans err).take (rule.allowance - (rule.regex.spans out).length))
          err) := by
  have hout := eraseUpTo_eq_cut (Nat.pos_of_ne_zero h) rule.regex out
  have hspent : rule.allowance - ((rule.regex.matches? out).take rule.allowance).length =
      rule.allowance - (rule.regex.spans out).length := by
    rw [List.length_take, length_matches?]
    omega
  rw [Rule.strip, if_neg h]
  simp only [hspent, hout]
  split
  · next hleft => rw [eraseUpTo_eq_cut hleft]
  · next hleft => rw [Nat.eq_zero_of_not_pos hleft, List.take_zero, cut_nil]

theorem strip_eq_cut :
    rule.strip out err =
      (cut (onStream .stdout (permitted rule.allowance
          (inOrder (rule.regex.spans out) (rule.regex.spans err)))) out,
        cut (onStream .stderr (permitted rule.allowance
          (inOrder (rule.regex.spans out) (rule.regex.spans err)))) err) := by
  by_cases h : rule.allowance = 0
  · rw [strip_of_allowance_eq_zero rule out err h, h, permitted_zero, onStream_inOrder,
      onStream_inOrder]
  · rw [strip_of_allowance_ne_zero rule out err h, permitted_eq_take _ h, take_inOrder,
      onStream_inOrder, onStream_inOrder]

/-- The matches of a rule are those that a search meets from left to right, first on standard output
and then on standard error. The rule deletes the first of them: as many as its allowance says, or
all if there are fewer or the allowance is zero. What standard output takes of the allowance is
within it, standard error gets nothing of an allowance that is used up, and an allowance that
suffices for all is as good as none. -/
theorem strip_deletes_first_matches :
    ∃ outs errs : List Span,
      (∀ ws, rule.regex.Successive out ws ↔ ws = outs) ∧
      (∀ ws, rule.regex.Successive err ws ↔ ws = errs) ∧
      rule.strip out err =
        (cut (onStream .stdout (permitted rule.allowance (inOrder outs errs))) out,
          cut (onStream .stderr (permitted rule.allowance (inOrder outs errs))) err) ∧
      ((rule.regex.matches? out).take rule.allowance).length = min rule.allowance outs.length ∧
      (rule.allowance ≠ 0 ∧ rule.allowance ≤ outs.length → (rule.strip out err).2 = err) ∧
      (rule.allowance ≠ 0 ∧ outs.length + errs.length ≤ rule.allowance →
        rule.strip out err = Rule.strip { rule with allowance := 0 } out err) := by
  refine ⟨rule.regex.spans out, rule.regex.spans err, fun _ ↦ successive_iff,
    fun _ ↦ successive_iff, strip_eq_cut rule out err, ?_, ?_, ?_⟩
  · rw [List.length_take, length_matches?]
  · rintro ⟨hne, hle⟩
    rw [strip_of_allowance_ne_zero rule out err hne, Nat.sub_eq_zero_of_le hle, List.take_zero,
      cut_nil]
  · rintro ⟨hne, hle⟩
    rw [strip_of_allowance_ne_zero rule out err hne, strip_of_allowance_eq_zero _ out err rfl,
      List.take_of_length_le (by omega), List.take_of_length_le (by omega)]

/-- An allowance of two is used up on standard output. -/
example : Rule.strip ⟨"a", Regex.literal ['a'], 2⟩ "xaay".toList "a".toList =
    ("xy".toList, "a".toList) := by decide +kernel

end MountSweep.Output
