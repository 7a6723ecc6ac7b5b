import MountSweep.Proofs.Regex.Matcher
import MountSweep.Regex.Search

namespace MountSweep.Regex

/-- A stretch of a text, by the numbers of the characters in front of it and in front of its end. -/
structure Span where
  start : ℕ
  stop : ℕ
  deriving DecidableEq, Repr

def Span.covers (w : Span) (i : ℕ) : Bool := w.start ≤ i && i < w.stop

/-- The length of the match of an expression that starts at a place of a text. -/
def matchAt? (r : Regex) (cs : List Char) (i : ℕ) : Option ℕ :=
  r.matchLength? (cs.take i).getLast? (cs.drop i)

/-- A match of length `n` starts at a place and counts: it is not an empty match where the match
before it ended. -/
def Counts (r : Regex) (cs : List Char) (last : Option ℕ) (i n : ℕ) : Prop :=
  r.matchAt? cs i = some n ∧ ¬ (n = 0 ∧ last = some i)

/-- The matches that a search meets from the place `from` on, the match before having ended at
`last`: each is the leftmost one that counts, and the next is looked for from its end on. -/
inductive SuccessiveFrom (r : Regex) (cs : List Char) : ℕ → Option ℕ → List Span → Prop
  | done {start : ℕ} {last : Option ℕ}
      (hnone : ∀ i, start ≤ i → i ≤ cs.length → ∀ n, ¬ r.Counts cs last i n) :
      SuccessiveFrom r cs start last []
  | next {start i n : ℕ} {last : Option ℕ} {ws : List Span} (hi : start ≤ i) (hle : i ≤ cs.length)
      (hc : r.Counts cs last i n)
      (hfirst : ∀ j, start ≤ j → j < i → ∀ m, ¬ r.Counts cs last j m)
      (hws : SuccessiveFrom r cs (i + n) (some (i + n)) ws) :
      SuccessiveFrom r cs start last (⟨i, i + n⟩ :: ws)

/-- The successive leftmost matches of an expression in a text that do not overlap. -/
def Successive (r : Regex) (cs : List Char) (ws : List Span) : Prop :=
  SuccessiveFrom r cs 0 none ws

/-- The places of the matches among pieces, the first of which begins at `i`. -/
def spansFrom (i : ℕ) : List Piece → List Span
  | [] => []
  | .kept _ :: rest => spansFrom (i + 1) rest
  | .found t :: rest => ⟨i, i + t.length⟩ :: spansFrom (i + t.length) rest

def spans (r : Regex) (cs : List Char) : List Span := spansFrom 0 (r.pieces cs)

/-- A text whose first character has the number `i`, without the stretches. -/
def cutFrom (i : ℕ) (ws : List Span) (cs : List Char) : List Char :=
  ((cs.zipIdx i).filter fun p ↦ !ws.any (·.covers p.2)).map Prod.fst

def cut (ws : List Span) (cs : List Char) : List Char := cutFrom 0 ws cs

variable {r : Regex} {cs : List Char} {start : ℕ} {last : Option ℕ} {ws : List Span}

theorem SuccessiveFrom.skip (h : SuccessiveFrom r cs (start + 1) last ws)
    (hnone : ∀ n, ¬ r.Counts cs last start n) : SuccessiveFrom r cs start last ws := by
  cases h with
  | done hdone =>
    refine .done fun i hi hle ↦ ?_
    rcases Nat.eq_or_lt_of_le hi with rfl | hlt
    · exact hnone
    · exact hdone i hlt hle
  | next hi hle hc hfirst hws =>
    refine .next (by omega) hle hc (fun j hj hlt ↦ ?_) hws
    rcases Nat.eq_or_lt_of_le hj with rfl | hlt'
    · exact hnone
    · exact hfirst j hlt' hlt

theorem SuccessiveFrom.unique {ws' : List Span} (h : SuccessiveFrom r cs start last ws)
    (h' : SuccessiveFrom r cs start last ws') : ws = ws' := by
  induction h generalizing ws' with
  | done hnone =>
    cases h' with
    | done => rfl
    | next hi hle hc => exact absurd hc (hnone _ hi hle _)
  | @next start i n last ws hi hle hc hfirst hws ih =>
    cases h' with
    | done hnone => exact absurd hc (hnone _ hi hle _)
    | @next _ j m _ ws' hj hle' hc' hfirst' hws' =>
      obtain rfl : i = j := by
        rcases Nat.lt_trichotomy i j with hlt | heq | hlt
        · exact absurd hc (hfirst' i hi hlt n)
        · exact heq
        · exact absurd hc' (hfirst j hj hlt m)
      obtain rfl : n = m := Option.some.inj (hc.1.symm.trans hc'.1)
      rw [ih hws']

theorem counts_append_iff {pre rest : List Char} {n : ℕ} :
    r.Counts (pre ++ rest) last pre.length n ↔
      r.matchLength? pre.getLast? rest = some n ∧ ¬ (n = 0 ∧ last = some pre.length) := by
  simp [Counts, matchAt?]

section

variable {before : Option Char} {adjacent : Bool} {c : Char} {rest : List Char}

theorem piecesFrom_found {n : ℕ} (hm : r.matchLength? before rest = some (n + 1)) :
    piecesFrom r before adjacent rest = .found (rest.take (n + 1)) ::
      piecesFrom r (rest.take (n + 1)).getLast? true (rest.drop (n + 1)) := by
  have hlt : n < rest.length := matchLength?_le hm
  rw [piecesFrom.eq_def]
  simp only [hm, hlt, dite_true]

theorem piecesFrom_nil :
    piecesFrom r before adjacent [] =
      if r.matchLength? before [] = none ∨ adjacent then [] else [.found []] := by
  rw [piecesFrom.eq_def]
  cases hm : r.matchLength? before [] with
  | none => simp
  | some n =>
    obtain rfl : n = 0 := by simpa using matchLength?_le hm
    simp

theorem piecesFrom_cons (hm : ∀ n, r.matchLength? before (c :: rest) ≠ some (n + 1)) :
    piecesFrom r before adjacent (c :: rest) =
      (if r.matchLength? before (c :: rest) = none ∨ adjacent then [] else [.found []]) ++
        .kept c :: piecesFrom r (some c) false rest := by
  rw [piecesFrom]
  rcases h : r.matchLength? before (c :: rest) with _ | _ | n
  · simp
  · simp
  · exact absurd h (hm n)

end

/-- A place where no match takes a character: an empty one counts unless a match has ended there. -/
theorem SuccessiveFrom.ofEmpty {pre rest : List Char} {adjacent : Bool} {ps : List Piece}
    (hadj : adjacent ↔ last = some pre.length)
    (hps : ∀ last, (∀ e ∈ last, e ≤ pre.length) →
      (r.matchLength? pre.getLast? rest ≠ none → last = some pre.length) →
      SuccessiveFrom r (pre ++ rest) pre.length last (spansFrom pre.length ps))
    (hm : ∀ n, r.matchLength? pre.getLast? rest ≠ some (n + 1))
    (hlast : ∀ e ∈ last, e ≤ pre.length) :
    SuccessiveFrom r (pre ++ rest) pre.length last (spansFrom pre.length
      ((if r.matchLength? pre.getLast? rest = none ∨ adjacent then [] else [.found []]) ++
        ps)) := by
  split
  · next h => exact hps last hlast fun hne ↦ hadj.mp (h.resolve_left hne)
  · next h =>
    obtain ⟨hne, hnadj⟩ := not_or.mp h
    obtain ⟨_ | n, h0⟩ := Option.ne_none_iff_exists'.mp hne
    · refine .next (Nat.le_refl _) (by simp) (counts_append_iff.mpr ⟨h0, fun h ↦ ?_⟩)
        (fun j hj hlt ↦ by omega) (hps (some (pre.length + 0)) (by simp) fun _ ↦ rfl)
      exact hnadj (hadj.mpr h.2)
    · exact absurd h0 (hm n)

/-- The pieces of a text from a place on are the matches that a search meets from there on,
whatever stands in front of it. -/
def PiecesMet (r : Regex) (before : Option Char) (adjacent : Bool) (rest : List Char) : Prop :=
  ∀ (pre : List Char) (last : Option ℕ), before = pre.getLast? →
    (adjacent ↔ last = some pre.length) → (∀ e ∈ last, e ≤ pre.length) →
    SuccessiveFrom r (pre ++ rest) pre.length last
      (spansFrom pre.length (piecesFrom r before adjacent rest))

variable {before : Option Char} {adjacent : Bool} {rest : List Char}

theorem piecesMet_nil : PiecesMet r before adjacent [] := by
  rintro pre last rfl hadj hlast
  have hm (n : ℕ) : r.matchLength? pre.getLast? [] ≠ some (n + 1) := fun h ↦ by
    simpa using matchLength?_le h
  rw [piecesFrom_nil, ← List.append_nil (ite ..)]
  refine .ofEmpty hadj (fun last _ hempty ↦ .done fun i hi hle n hc ↦ ?_) hm hlast
  obtain rfl : i = pre.length := by
    rw [List.append_nil] at hle
    omega
  obtain ⟨h, hcount⟩ := counts_append_iff.mp hc
  cases n with
  | zero => exact hcount ⟨rfl, hempty (by simp [h])⟩
  | succ n => exact hm n h

theorem piecesMet_cons {c : Char} (hm : ∀ n, r.matchLength? before (c :: rest) ≠ some (n + 1))
    (ih : PiecesMet r (some c) false rest) : PiecesMet r before adjacent (c :: rest) := by
  rintro pre last rfl hadj hlast
  rw [piecesFrom_cons hm]
  -- Whether or not an empty match counts here, the next match begins at least one place further on.
  refine .ofEmpty hadj (fun last hlast hempty ↦ .skip ?_ fun n hc ↦ ?_) hm hlast
  · have hlen : (pre ++ [c]).length = pre.length + 1 := List.length_append
    have hlt : ∀ e ∈ last, e < (pre ++ [c]).length := fun e he ↦ by
      have := hlast e he
      omega
    have h := ih (pre ++ [c]) last (by simp) (by simpa using fun h ↦ (hlt _ h).ne rfl)
      fun e he ↦ (hlt e he).le
    simpa [spansFrom] using h
  · obtain ⟨h, hcount⟩ := counts_append_iff.mp hc
    cases n with
    | zero => exact hcount ⟨rfl, hempty (by simp [h])⟩
    | succ n => exact hm n h

theorem piecesMet_found {n : ℕ} (hm : r.matchLength? before rest = some (n + 1))
    (ih : PiecesMet r (rest.take (n + 1)).getLast? true (rest.drop (n + 1))) :
    PiecesMet r before adjacent rest := by
  rintro pre last rfl hadj hlast
  have hlen : (rest.take (n + 1)).length = n + 1 := List.length_take_of_le (matchLength?_le hm)
  have hbefore : (rest.take (n + 1)).getLast? = (pre ++ rest.take (n + 1)).getLast? := by
    rw [List.getLast?_append_of_ne_nil]
    exact List.ne_nil_of_length_eq_add_one hlen
  have h := ih (pre ++ rest.take (n + 1)) (some (pre.length + (n + 1))) hbefore (by simp [hlen])
    (by simp [hlen])
  rw [List.append_assoc, List.take_append_drop, List.length_append, hlen] at h
  rw [piecesFrom_found hm, spansFrom, hlen]
  exact .next (Nat.le_refl _) (by simp) (counts_append_iff.mpr ⟨hm, by simp⟩)
    (fun j hj hlt ↦ by omega) h

theorem piecesMet (r : Regex) (before : Option Char) (adjacent : Bool) (rest : List Char) :
    PiecesMet r before adjacent rest := by
  induction before, adjacent, rest using piecesFrom.induct r with
  | case1 before adjacent rest n hm hlt ih => exact piecesMet_found hm ih
  | case2 before adjacent rest n hm hlt => exact absurd (matchLength?_le hm) (by omega)
  | case3 | case5 => exact piecesMet_nil
  | case4 before adjacent c rest hm ih | case6 before adjacent c rest hm ih =>
    exact piecesMet_cons (by simp [hm]) ih

/-- The places of the matches are those that a search meets, and there are no others. -/
theorem successive_iff : r.Successive cs ws ↔ ws = r.spans cs := by
  have h : r.Successive cs (r.spans cs) := piecesMet r none false cs [] none rfl (by simp) (by simp)
  exact ⟨fun hws ↦ hws.unique h, fun hws ↦ hws ▸ h⟩

theorem length_matches? (r : Regex) (cs : List Char) :
    (r.matches? cs).length = (r.spans cs).length := by
  have h (f : Piece → Option (List Char)) (hkept : ∀ c, f (.kept c) = none)
      (hfound : ∀ t, f (.found t) = some t) (i : ℕ) (ps : List Piece) :
      (ps.filterMap f).length = (spansFrom i ps).length := by
    induction ps generalizing i with
    | nil => rfl
    | cons p ps ih =>
      cases p with
      | kept c => simpa [spansFrom, hkept] using ih (i + 1)
      | found t => simpa [spansFrom, hfound] using ih (i + t.length)
  exact h _ (fun _ ↦ rfl) (fun _ ↦ rfl) 0 _

theorem start_le_of_mem_spansFrom {i : ℕ} {ps : List Piece} {w : Span} (hw : w ∈ spansFrom i ps) :
    i ≤ w.start := by
  induction ps generalizing i with
  | nil => cases hw
  | cons p ps ih =>
    cases p with
    | kept c =>
      have := ih hw
      omega
    | found t =>
      rcases List.mem_cons.mp hw with rfl | hw
      · exact Nat.le_refl _
      · have := ih hw
        omega

theorem cutFrom_append (i : ℕ) (ws : List Span) (cs ds : List Char) :
    cutFrom i ws (cs ++ ds) = cutFrom i ws cs ++ cutFrom (i + cs.length) ws ds := by
  simp [cutFrom, List.zipIdx_append]

theorem cut_append (ws : List Span) (x y : List Char) :
    cut ws (x ++ y) = cut ws x ++ cutFrom x.length ws y := by
  rw [cut, cutFrom_append, Nat.zero_add, cut]

theorem cutFrom_singleton (i : ℕ) (ws : List Span) (c : Char) :
    cutFrom i ws [c] = if ws.any (·.covers i) then [] else [c] := by
  by_cases h : ws.any (·.covers i) <;> simp [cutFrom, h]

theorem cutFrom_of_uncovered {i : ℕ}
    (h : ∀ u c v, cs = u ++ c :: v → ¬ ws.any (·.covers (i + u.length))) :
    cutFrom i ws cs = cs := by
  induction cs generalizing i with
  | nil => rfl
  | cons c cs ih =>
    have hc : ¬ ws.any (·.covers i) := h [] c cs rfl
    rw [← List.singleton_append, cutFrom_append, cutFrom_singleton, if_neg hc, ih]
    rintro u d v rfl
    have hd := h (c :: u) d v rfl
    rwa [List.length_cons, Nat.add_comm u.length, ← Nat.add_assoc] at hd

theorem cutFrom_eq_self {i : ℕ} (h : ∀ w ∈ ws, i + cs.length ≤ w.start) : cutFrom i ws cs = cs := by
  refine cutFrom_of_uncovered fun u c v hcs hcovered ↦ ?_
  obtain ⟨w, hw, hcovers⟩ := List.any_eq_true.mp hcovered
  have hle := h w hw
  rw [hcs, List.length_append, List.length_cons] at hle
  simp only [Span.covers, Bool.and_eq_true, decide_eq_true_eq] at hcovers
  omega

theorem cutFrom_nil (i : ℕ) (cs : List Char) : cutFrom i [] cs = cs := cutFrom_eq_self (by simp)

theorem cut_nil (cs : List Char) : cut [] cs = cs := cutFrom_nil 0 cs

theorem cutFrom_eq_append {i : ℕ} {x y : List Char} (h : cutFrom i ws cs = x ++ y) :
    ∃ u v, cs = u ++ v ∧ cutFrom i ws u = x ∧ cutFrom (i + u.length) ws v = y := by
  obtain ⟨fx, fy, hfilter, rfl, rfl⟩ := List.map_eq_append_iff.mp h
  obtain ⟨px, py, hzip, rfl, rfl⟩ := List.filter_eq_append_iff.mp hfilter
  obtain ⟨u, v, rfl, rfl, rfl⟩ := List.zipIdx_eq_append_iff.mp hzip
  exact ⟨u, v, rfl, rfl, rfl⟩

theorem cutFrom_covered (i : ℕ) (ws : List Span) (cs : List Char) :
    cutFrom i (⟨i, i + cs.length⟩ :: ws) cs = [] := by
  have hnone : (cs.zipIdx i).filter
      (fun p ↦ !(⟨i, i + cs.length⟩ :: ws : List Span).any (·.covers p.2)) = [] := by
    refine List.filter_eq_nil_iff.mpr fun p hp ↦ ?_
    obtain ⟨hle, hlt, -⟩ := List.mem_zipIdx hp
    simp [Span.covers, hle, hlt]
  rw [cutFrom, hnone, List.map_nil]

theorem cutFrom_behind {i : ℕ} {w : Span} (h : w.stop ≤ i) :
    cutFrom i (w :: ws) cs = cutFrom i ws cs := by
  have heq : (cs.zipIdx i).filter (fun p ↦ !(w :: ws).any (·.covers p.2)) =
      (cs.zipIdx i).filter (fun p ↦ !ws.any (·.covers p.2)) := by
    refine List.filter_congr fun p hp ↦ ?_
    have hle := (List.mem_zipIdx hp).1
    have hw : w.covers p.2 = false := by
      simp only [Span.covers, Bool.and_eq_false_iff, decide_eq_false_iff_not]
      omega
    rw [List.any_cons, hw, Bool.false_or]
  rw [cutFrom, heq, cutFrom]

/-- To leave out the first matches among pieces is to delete the places that they cover. -/
theorem dropFound_eq_cutFrom (n i : ℕ) (ps : List Piece) :
    dropFound n ps = cutFrom i ((spansFrom i ps).take n) (ps.flatMap Piece.text) := by
  induction ps generalizing n i with
  | nil => cases n <;> rfl
  | cons p ps ih =>
    cases p with
    | kept c =>
      have hdrop : dropFound n (.kept c :: ps) = c :: dropFound n ps := by cases n <;> rfl
      have hc : cutFrom i ((spansFrom (i + 1) ps).take n) [c] = [c] :=
        cutFrom_eq_self fun w hw ↦ start_le_of_mem_spansFrom (List.mem_of_mem_take hw)
      rw [hdrop, ih n (i + 1), spansFrom, List.flatMap_cons, cutFrom_append, Piece.text, hc]
      rfl
    | found t =>
      rw [List.flatMap_cons, Piece.text, cutFrom_append]
      cases n with
      | zero =>
        have hps : dropFound 0 ps = ps.flatMap Piece.text := by simpa [cutFrom_nil] using ih 0 i
        rw [List.take_zero, cutFrom_nil, cutFrom_nil, dropFound, Piece.text, hps]
      | succ n =>
        rw [spansFrom, List.take_succ_cons, cutFrom_covered,
          cutFrom_behind (by exact Nat.le_refl _), List.nil_append, dropFound]
        exact ih n _

theorem flatMap_text_piecesFrom (r : Regex) (before : Option Char) (adjacent : Bool)
    (cs : List Char) : (piecesFrom r before adjacent cs).flatMap Piece.text = cs := by
  induction before, adjacent, cs using piecesFrom.induct r with
  | case1 before adjacent cs n hm hlt ih =>
    rw [piecesFrom_found hm, List.flatMap_cons, ih, Piece.text, List.take_append_drop]
  | case2 before adjacent cs n hm hlt => exact absurd (matchLength?_le hm) (by omega)
  | case3 | case5 =>
    rw [piecesFrom_nil]
    split <;> rfl
  | case4 before adjacent c rest hm ih | case6 before adjacent c rest hm ih =>
    rw [piecesFrom_cons (by simp [hm])]
    split <;> simp [Piece.text, ih]

theorem dropFound_pieces (r : Regex) (n : ℕ) (cs : List Char) :
    dropFound n (r.pieces cs) = cut ((r.spans cs).take n) cs := by
  rw [dropFound_eq_cutFrom n 0, pieces, flatMap_text_piecesFrom]
  rfl

theorem dropFound_of_le {n i : ℕ} {ps : List Piece} (h : (spansFrom i ps).length ≤ n) :
    dropFound n ps = ps.flatMap fun | .kept c => [c] | .found _ => [] := by
  induction ps generalizing n i with
  | nil => cases n <;> rfl
  | cons p ps ih =>
    cases p with
    | kept c =>
      have hps := ih (n := n) (i := i + 1) h
      cases n <;> simp [dropFound, Piece.text, hps]
    | found t =>
      cases n with
      | zero => cases h
      | succ n => simpa [dropFound] using ih (i := i + t.length) (Nat.le_of_succ_le_succ h)

theorem eraseAll_eq_cut (r : Regex) (cs : List Char) : r.eraseAll cs = cut (r.spans cs) cs := by
  have h := r.dropFound_pieces (r.spans cs).length cs
  rwa [List.take_length, dropFound_of_le (i := 0) (by exact Nat.le_refl _)] at h

theorem eraseUpTo_eq_cut {n : ℕ} (hn : 0 < n) (r : Regex) (cs : List Char) :
    r.eraseUpTo n cs = cut ((r.spans cs).take n) cs := by
  rw [eraseUpTo, if_neg (by omega), dropFound_pieces]

end MountSweep.Regex
