import Mathlib.Data.List.Basic
import MountSweep.Posix.FileSystem.Walk

namespace MountSweep

namespace Path

variable {separator : UInt8} {held xs ys : Bytes}

theorem splitFrom_of_notMem (h : separator ∉ ys) : splitFrom separator held ys = [held ++ ys] := by
  induction ys generalizing held with
  | nil => rw [splitFrom, List.append_nil]
  | cons b ys ih =>
    rw [List.mem_cons, not_or] at h
    obtain ⟨hb, hys⟩ := h
    rw [splitFrom, if_neg (Ne.symm hb), ih hys, List.append_assoc, List.singleton_append]

theorem splitFrom_append_cons (held xs ys : Bytes) :
    splitFrom separator held (xs ++ separator :: ys) =
      splitFrom separator held xs ++ splitFrom separator [] ys := by
  induction xs generalizing held with
  | nil => simp [splitFrom]
  | cons b xs ih =>
    rw [List.cons_append, splitFrom, splitFrom]
    split
    · rw [ih, List.cons_append]
    · rw [ih]

theorem parts_append_slash (xs : Bytes) : parts (xs ++ [slash]) = parts xs := by
  rw [parts, splitAt, splitFrom_append_cons, List.filter_append]
  exact List.append_nil _

theorem parts_append_cons (h : slash ∉ ys) (hne : ys ≠ []) (xs : Bytes) :
    parts (xs ++ slash :: ys) = parts xs ++ [ys] := by
  rw [parts, splitAt, splitFrom_append_cons, splitFrom_of_notMem h, List.filter_append,
    List.nil_append, List.filter_singleton, decide_eq_true hne, cond_true]
  rfl

end Path

namespace Posix.FileSystem

/-- More than the length of a name for which paths leave room: its slash included, this much. -/
def nameRoom : Nat := 30

structure IsName (name : Bytes) : Prop where
  ne_nil : name ≠ []
  ne_dot : name ≠ dot
  ne_dotDot : name ≠ dotDot
  slash_notMem : Path.slash ∉ name
  zero_notMem : 0 ∉ name
  length_lt : name.length < nameRoom

namespace IsName

variable {name : Bytes} {base : Path}

theorem length_le_maxName (h : IsName name) : name.length ≤ maxName :=
  Nat.le_trans (Nat.le_of_lt h.length_lt) (by decide)

theorem isAbsolute_eq_false (h : IsName name) : Path.isAbsolute name = false := by
  cases name with
  | nil => exact absurd rfl h.ne_nil
  | cons b rest =>
    rw [Path.isAbsolute, beq_eq_false_iff_ne]
    rintro rfl
    exact h.slash_notMem List.mem_cons_self

theorem join_cases (h : IsName name) (hb : base ≠ []) :
    (∃ front, base = front ++ [Path.slash] ∧ base.join name = front ++ Path.slash :: name) ∨
      base.join name = base ++ Path.slash :: name := by
  rw [Path.join, h.isAbsolute_eq_false, if_neg Bool.false_ne_true]
  by_cases hlast : base.getLast? = some Path.slash
  · obtain ⟨front, rfl⟩ := List.getLast?_eq_some_iff.mp hlast
    refine .inl ⟨front, rfl, ?_⟩
    rw [if_pos (.inr hlast), List.append_assoc, List.singleton_append]
  · exact .inr (if_neg (not_or.mpr ⟨hb, hlast⟩))

theorem parts_join (h : IsName name) (hb : base ≠ []) :
    (base.join name).parts = base.parts ++ [name] := by
  rcases h.join_cases hb with ⟨front, rfl, hjoin⟩ | hjoin
  · rw [hjoin, Path.parts_append_cons h.slash_notMem h.ne_nil, Path.parts_append_slash]
  · rw [hjoin, Path.parts_append_cons h.slash_notMem h.ne_nil]

theorem length_join_le (h : IsName name) (hb : base ≠ []) :
    (base.join name).length ≤ base.length + nameRoom := by
  have hname := h.length_lt
  rcases h.join_cases hb with ⟨front, rfl, hjoin⟩ | hjoin
  · rw [hjoin, List.length_append, List.length_append, List.length_cons, List.length_singleton]
    omega
  · rw [hjoin, List.length_append, List.length_cons]
    omega

theorem isAbsolute_join (h : IsName name) (hb : base ≠ []) :
    (base.join name).isAbsolute = base.isAbsolute := by
  rcases h.join_cases hb with ⟨front, rfl, hjoin⟩ | hjoin
  · rw [hjoin]
    cases front <;> rfl
  · obtain ⟨b, rest, rfl⟩ := List.exists_cons_of_ne_nil hb
    rw [hjoin]
    rfl

theorem getLast?_join (h : IsName name) (hb : base ≠ []) :
    (base.join name).getLast? ≠ some Path.slash := by
  have hlast (front : Bytes) : (front ++ Path.slash :: name).getLast? ≠ some Path.slash := by
    rw [List.getLast?_append_of_ne_nil _ (List.cons_ne_nil _ _),
      List.getLast?_cons_of_ne_nil h.ne_nil]
    exact fun hend ↦ h.slash_notMem (List.mem_of_getLast? hend)
  rcases h.join_cases hb with ⟨front, rfl, hjoin⟩ | hjoin
  · exact hjoin ▸ hlast front
  · exact hjoin ▸ hlast base

theorem zero_notMem_join (h : IsName name) (hb : base ≠ []) (hz : 0 ∉ base) :
    0 ∉ base.join name := by
  have hzero := h.zero_notMem
  rcases h.join_cases hb with ⟨front, rfl, hjoin⟩ | hjoin
  · rw [hjoin]
    simp_all [Path.slash]
  · rw [hjoin]
    simp_all [Path.slash]

theorem join_ne_nil (h : IsName name) (hb : base ≠ []) : base.join name ≠ [] := by
  rcases h.join_cases hb with ⟨front, rfl, hjoin⟩ | hjoin <;> simp [hjoin]

end IsName

end Posix.FileSystem

end MountSweep
