import MountSweep.Posix.FileSystem.Fresh
import MountSweep.Proofs.Scenarios.Steps

namespace MountSweep.Scenario

open Posix FileSystem Check

variable {a b c : Bytes} {j k : ℕ}

/-- Two byte strings are the same before `k`, and at `k` they have different bytes or just one of
them has ended. -/
structure PartAt (a b : Bytes) (k : ℕ) : Prop where
  same : ∀ i < k, a[i]? = b[i]?
  differ : a[k]? ≠ b[k]?

namespace PartAt

theorem symm (h : PartAt a b k) : PartAt b a k where
  same i hi := (h.same i hi).symm
  differ := h.differ.symm

theorem unique (h : PartAt a b j) (h' : PartAt a b k) : j = k := by
  rcases Nat.lt_trichotomy j k with hlt | heq | hlt
  · exact absurd (h'.same j hlt) h.differ
  · exact heq
  · exact absurd (h.same k hlt) h'.differ

theorem le_length (h : PartAt a b k) : k ≤ a.length := by
  by_contra! hlt
  -- at its end the one would be the same as the other, so both would have ended before `k`
  have hend := h.same a.length hlt
  rw [List.getElem?_eq_none le_rfl, eq_comm, List.getElem?_eq_none_iff] at hend
  exact h.differ (by
    rw [List.getElem?_eq_none hlt.le, List.getElem?_eq_none (hend.trans hlt.le)])

theorem take_eq (h : PartAt a b k) : a.take k = b.take k := by
  refine List.ext_getElem? fun i ↦ ?_
  rw [List.getElem?_take, List.getElem?_take]
  split
  · next hi => exact h.same i hi
  · rfl

theorem length_le_of_isPrefix (h : PartAt a b k) (ha : c <+: a) (hb : c <+: b) : c.length ≤ k := by
  by_contra! hlt
  refine h.differ ?_
  obtain ⟨_, rfl⟩ := ha
  obtain ⟨_, rfl⟩ := hb
  rw [List.getElem?_append_left hlt, List.getElem?_append_left hlt]

theorem cons (h : PartAt a b k) (x : UInt8) : PartAt (x :: a) (x :: b) (k + 1) where
  same i hi := by
    cases i with
    | zero => rfl
    | succ i =>
      rw [List.getElem?_cons_succ, List.getElem?_cons_succ]
      exact h.same i (Nat.lt_of_succ_lt_succ hi)
  differ := by
    rw [List.getElem?_cons_succ, List.getElem?_cons_succ]
    exact h.differ

theorem zero (h : a[0]? ≠ b[0]?) : PartAt a b 0 := ⟨nofun, h⟩

end PartAt

theorem firstDifference_nil_left (b : Bytes) : firstDifference [] b = 0 := by
  simp [firstDifference]

theorem firstDifference_nil_right (a : Bytes) : firstDifference a [] = 0 := by
  simp [firstDifference]

theorem firstDifference_cons (x y : UInt8) (a b : Bytes) :
    firstDifference (x :: a) (y :: b) = if x = y then firstDifference a b + 1 else 0 := by
  rw [firstDifference, List.zip_cons_cons, List.findIdx?_cons]
  by_cases hxy : x = y
  · -- the lengths and the place are all one further
    rw [if_pos hxy, firstDifference]
    generalize (a.zip b).findIdx? _ = found
    cases found <;> simp [hxy]
  · simp [hxy]

theorem partAt_firstDifference (h : a ≠ b) : PartAt a b (firstDifference a b) := by
  induction a generalizing b with
  | nil =>
    rw [firstDifference_nil_left]
    obtain ⟨y, b, rfl⟩ := List.exists_cons_of_ne_nil h.symm
    exact .zero (by simp)
  | cons x a ih =>
    cases b with
    | nil =>
      rw [firstDifference_nil_right]
      exact .zero (by simp)
    | cons y b =>
      rw [firstDifference_cons]
      by_cases hxy : x = y
      · subst hxy
        rw [if_pos rfl]
        exact (ih fun hab ↦ h (congrArg _ hab)).cons x
      · rw [if_neg hxy]
        exact .zero (by simpa using hxy)

/-- The failure that is reported of a file with the contents `observed` if they part at `k` from
what was expected. -/
def contentMismatch (p : Path) (expected observed : Bytes) (k : ℕ) : ScenarioFailure :=
  .mismatch ("read(" ++ p.display ++ ")") (toString expected.length ++ " bytes")
    (toString observed.length ++ " bytes, first difference at offset " ++ toString k)

variable {w : Workspace} {p : Path}

theorem run_assertContent (h : w.files.contentOf p = .ok a) (b : Bytes) :
    (assertContent p b).run w =
      (if a = b then .ok () else .error (contentMismatch p b a (firstDifference a b)), w) := by
  have hread : Looks (Check.contents p) w.files a := by
    rw [Check.contents, query]
    exact inspect_looks h
  rw [assertContent, run_bind, hread w rfl]
  dsimp only
  split <;> rfl

/-- A file passes exactly if it holds what is expected. Otherwise the lengths of both are reported
and the place `k` at which they part: what they have in common, and nothing longer, comes before it.
A file that holds what was expected, compared with what this one holds, has the same place
reported. -/
theorem content_comparison_exact (p : Path) (a b : Bytes) (w : Workspace)
    (h : w.files.contentOf p = .ok a) :
    ((assertContent p b).run w = (.ok (), w) ↔ a = b) ∧
    (a ≠ b → ∃ k,
      (assertContent p b).run w = (.error (contentMismatch p b a k), w) ∧
      PartAt a b k ∧ (∀ j, PartAt a b j → j = k) ∧
      k ≤ a.length ∧ k ≤ b.length ∧ k < max a.length b.length ∧
      a.take k = b.take k ∧ (∀ c, c <+: a → c <+: b → c.length ≤ k) ∧
      ∀ q w', w'.files.contentOf q = .ok b →
        (assertContent q a).run w' = (.error (contentMismatch q a b k), w')) := by
  have hrun := run_assertContent h b
  refine ⟨?_, fun hab ↦ ?_⟩
  · rw [hrun]
    split
    · next hab => simp [hab]
    · next hab => simp [hab]
  · have hpart := partAt_firstDifference hab
    have hlengths := And.intro hpart.le_length hpart.symm.le_length
    refine ⟨firstDifference a b, ?_, hpart, fun j hj ↦ hj.unique hpart, hlengths.1, hlengths.2, ?_,
      hpart.take_eq, fun c ↦ hpart.length_le_of_isPrefix, fun q w' h' ↦ ?_⟩
    · rw [hrun, if_neg hab]
    · by_contra! hmax
      refine hpart.differ ?_
      rw [List.getElem?_eq_none ((le_max_left _ _).trans hmax),
        List.getElem?_eq_none ((le_max_right _ _).trans hmax)]
    · have hswap : firstDifference b a = firstDifference a b :=
        (partAt_firstDifference hab.symm).symm.unique hpart
      rw [run_assertContent h' a, if_neg hab.symm, hswap]

/-- Two files, one of which begins like the other and ends earlier. -/
def truncatedFiles : FileSystem where
  inodes := [
    (FileSystem.root, freshDir FileSystem.root [("long", 2), ("short", 3)] 1),
    (2, { node := .file (Bytes.ofString "hello there"), mode := 0o644 }),
    (3, { node := .file (Bytes.ofString "hello"), mode := 0o644 })]
  next := 4
  cwd := FileSystem.root

/-- Where the shorter of two files ends is reported of either of them. -/
theorem truncated_file_reported :
    let w : Workspace := { files := truncatedFiles }
    let short := Bytes.ofString "short"
    let long := Bytes.ofString "long"
    w.files.contentOf short = .ok (Bytes.ofString "hello") ∧
      w.files.contentOf long = .ok (Bytes.ofString "hello there") ∧
      (assertContent short (Bytes.ofString "hello there")).run w = (.error (.mismatch
        "read(short)" "11 bytes" "5 bytes, first difference at offset 5"), w) ∧
      (assertContent long (Bytes.ofString "hello")).run w = (.error (.mismatch
        "read(long)" "5 bytes" "11 bytes, first difference at offset 5"), w) := by
  intro w short long
  have hshort : w.files.contentOf short = .ok (Bytes.ofString "hello") := by decide +kernel
  have hlong : w.files.contentOf long = .ok (Bytes.ofString "hello there") := by decide +kernel
  obtain ⟨-, hreport⟩ :=
    content_comparison_exact short (Bytes.ofString "hello") (Bytes.ofString "hello there") w hshort
  obtain ⟨k, hrun, -, honly, -, -, -, -, -, hswap⟩ := hreport (by decide +kernel)
  obtain rfl : 5 = k := honly 5 ⟨by decide +kernel, by decide +kernel⟩
  refine ⟨hshort, hlong, hrun.trans ?_, (hswap long w hlong).trans ?_⟩
  · exact congrArg (fun e ↦ (Except.error e, w)) (by decide +kernel)
  · exact congrArg (fun e ↦ (Except.error e, w)) (by decide +kernel)

end MountSweep.Scenario
