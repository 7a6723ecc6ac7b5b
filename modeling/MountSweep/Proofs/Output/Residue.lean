import Mathlib.Data.List.Induction
import MountSweep.Proofs.Output.Additions
import MountSweep.Proofs.Text.Utf8

namespace MountSweep.Regex

variable {r : Regex} {cs : List Char}

theorem cut_sublist (ws : List Span) (cs : List Char) : List.Sublist (cut ws cs) cs := by
  have h := List.Sublist.map Prod.fst
    (List.filter_sublist (l := cs.zipIdx) (p := fun p ↦ !ws.any (·.covers p.2)))
  rwa [List.zipIdx_map_fst] at h

def Unmatched (r : Regex) (cs : List Char) : Prop := ∀ i ≤ cs.length, r.matchAt? cs i = none

instance : DecidablePred r.Unmatched := fun cs ↦
  inferInstanceAs (Decidable (∀ i ≤ cs.length, r.matchAt? cs i = none))

theorem Unmatched.spans_eq (h : r.Unmatched cs) : r.spans cs = [] := by
  refine (successive_iff.mp (.done fun i _ hi n hc ↦ ?_)).symm
  rw [Counts, h i hi] at hc
  cases hc.1

end MountSweep.Regex

namespace MountSweep.Output

open Regex Text.Utf8

theorem Rule.removed_of_unmatched {rule : Rule} {text : Stream → List Char}
    (h : ∀ stream, rule.regex.Unmatched (text stream)) (stream : Stream) :
    rule.removed text stream = [] := by
  have hnone :
      inOrder (rule.regex.spans (text .stdout)) (rule.regex.spans (text .stderr)) = [] := by
    rw [(h .stdout).spans_eq, (h .stderr).spans_eq]
    rfl
  rw [Rule.removed, hnone, permitted, List.take_nil]
  rfl

namespace Surveillance

variable {s : Surveillance} {rule : Rule} {c : Captured}

theorem residue_eq (s : Surveillance) (c : Captured) : s.residue c =
    ⟨Bytes.ofChars (s.left c .stdout), Bytes.ofChars (s.left c .stderr)⟩ := rfl

theorem bytes_residue (s : Surveillance) (c : Captured) (stream : Stream) :
    (s.residue c).bytes stream = Bytes.ofChars (s.left c stream) := by
  cases stream <;> rfl

theorem text_residue (s : Surveillance) (c : Captured) (stream : Stream) :
    (s.residue c).text stream = s.left c stream := by
  rw [Captured.text, bytes_residue, decodeLossy_ofChars]

theorem residual_append (rs ss : List Rule) (c : Captured) :
    (⟨rs ++ ss⟩ : Surveillance).residual c =
      (⟨ss⟩ : Surveillance).residual ((⟨rs⟩ : Surveillance).residue c) := by
  rw [residual, residual, text_residue, text_residue, List.foldl_append]
  rfl

theorem residue_append (rs ss : List Rule) (c : Captured) :
    (⟨rs ++ ss⟩ : Surveillance).residue c =
      (⟨ss⟩ : Surveillance).residue ((⟨rs⟩ : Surveillance).residue c) := by
  rw [residue, residual_append]
  rfl

theorem classify_residue (s : Surveillance) (c : Captured) :
    ({} : Surveillance).classify (s.residue c) = s.classify c := by
  have h := residual_append s.rules [] c
  rw [List.append_nil] at h
  rw [classify, classify, h]

theorem left_sublist (rs : List Rule) (c : Captured) (stream : Stream) :
    List.Sublist ((⟨rs⟩ : Surveillance).left c stream) (c.text stream) := by
  induction rs using List.reverseRecOn with
  | nil => cases stream <;> exact List.Sublist.refl _
  | append_singleton rs rule ih =>
    have h : (⟨rs ++ [rule]⟩ : Surveillance).left c stream = cut _ _ := left_register stream
    rw [h]
    exact (cut_sublist _ _).trans ih

theorem residue_register_of_unmatched
    (h : ∀ stream, rule.regex.Unmatched ((s.residue c).text stream)) :
    (s.register rule).residue c = s.residue c := by
  simp only [text_residue] at h
  have hleft (stream : Stream) : (s.register rule).left c stream = s.left c stream := by
    rw [left_register, Rule.removed_of_unmatched h, cut_nil]
  rw [residue_eq, hleft, hleft, ← residue_eq]

/-- Two lists of rules one after the other leave what the second leaves of the residue of the first,
and no rules leave the text as it was decoded. The residue of a stream is well-formed and has lost
characters of the text of that stream, but not got any. A rule that matches on neither stream might
as well not be there, and the verdict depends on the residue alone. -/
theorem residues_compose (rs ss : List Rule) (c : Captured) :
    (⟨rs ++ ss⟩ : Surveillance).residue c =
        (⟨ss⟩ : Surveillance).residue ((⟨rs⟩ : Surveillance).residue c) ∧
      (∀ stream, (({} : Surveillance).residue c).bytes stream = Bytes.ofChars (c.text stream)) ∧
      (∀ stream, Bytes.IsText (((⟨rs⟩ : Surveillance).residue c).bytes stream) ∧
        List.Sublist (((⟨rs⟩ : Surveillance).residue c).text stream) (c.text stream)) ∧
      (∀ rule : Rule,
        (∀ stream, rule.regex.Unmatched (((⟨rs⟩ : Surveillance).residue c).text stream)) →
          (⟨rs ++ rule :: ss⟩ : Surveillance).residue c = (⟨rs ++ ss⟩ : Surveillance).residue c) ∧
      (⟨rs⟩ : Surveillance).classify c =
        ({} : Surveillance).classify ((⟨rs⟩ : Surveillance).residue c) := by
  refine ⟨residue_append rs ss c, fun stream ↦ ?_, fun stream ↦ ⟨?_, ?_⟩, fun rule h ↦ ?_,
    (classify_residue _ c).symm⟩
  · rw [bytes_residue]
    cases stream <;> rfl
  · refine ⟨String.ofList ((⟨rs⟩ : Surveillance).left c stream), ?_⟩
    rw [bytes_residue, Bytes.ofString, String.toList_ofList]
  · rw [text_residue]
    exact left_sublist rs c stream
  · have hrule : (⟨rs ++ [rule]⟩ : Surveillance).residue c = (⟨rs⟩ : Surveillance).residue c :=
      residue_register_of_unmatched h
    rw [List.append_cons, residue_append, hrule, ← residue_append]

/-- A rule for `=0` on bytes that end within a character. A rule for a text that is on neither
stream changes nothing, before another rule or behind it. -/
theorem residue_of_cut_bytes :
    let zero : Rule := ⟨"=0", Regex.literal "=0".toList, 1⟩
    let other : Rule := ⟨"=1", Regex.literal "=1".toList, 0⟩
    let c : Captured := ⟨Bytes.ofString "a=0", Bytes.ofString "b=0" ++ [0xE2, 0x82]⟩
    (∀ stream, other.regex.Unmatched (((⟨[zero]⟩ : Surveillance).residue c).text stream)) ∧
      (⟨[zero, other, zero]⟩ : Surveillance).residue c =
        (⟨[zero]⟩ : Surveillance).residue ((⟨[zero]⟩ : Surveillance).residue c) ∧
      (⟨[zero, zero]⟩ : Surveillance).residue c =
        ⟨Bytes.ofString "a", Bytes.ofString "b\ufffd"⟩ := by
  intro zero other c
  have hother (stream : Stream) :
      other.regex.Unmatched (((⟨[zero]⟩ : Surveillance).residue c).text stream) := by
    cases stream <;> decide +kernel
  obtain ⟨hcompose, -, -, hdrop, -⟩ := residues_compose [zero] [zero] c
  refine ⟨hother, ?_, by decide +kernel⟩
  exact (hdrop other hother).trans hcompose

end Surveillance

end MountSweep.Output
