import MountSweep.Proofs.Regex.Escaping

namespace MountSweep.Regex.Automaton

/-- A layout gives `a` and takes so many bytes, or fails because these do not fit into what is left
of the memory. -/
structure Costs {α : Type} (l : Layout α) (a : α) (n : ℕ) : Prop where
  fits : ∀ t : Tally, t.memory + n ≤ sizeLimit →
    ∃ t', l.run t = some (a, t') ∧ t'.memory = t.memory + n
  fails : ∀ t : Tally, t.memory ≤ sizeLimit → sizeLimit < t.memory + n → l.run t = none

variable {α β : Type} {l : Layout α} {a : α} {n : ℕ}

theorem Costs.of_eq {m : ℕ} (h : Costs l a n) (hn : n = m) : Costs l a m := hn ▸ h

theorem costs_return (a : α) : Costs (return a) a 0 where
  fits _ _ := ⟨_, rfl, rfl⟩
  fails _ ht h := absurd ht (Nat.not_le.mpr h)

theorem Costs.bind {k : α → Layout β} {b : β} {m : ℕ} (h : Costs l a n) (hk : Costs (k a) b m) :
    Costs (l >>= k) b (n + m) where
  fits t ht := by
    obtain ⟨t', hrun, hmemory⟩ := h.fits t (by omega)
    obtain ⟨t'', hrun', hmemory'⟩ := hk.fits t' (by omega)
    refine ⟨t'', ?_, by omega⟩
    rw [StateT.run_bind, hrun]
    exact hrun'
  fails t ht hlt := by
    rw [StateT.run_bind]
    by_cases hn : t.memory + n ≤ sizeLimit
    · obtain ⟨t', hrun, hmemory⟩ := h.fits t hn
      rw [hrun]
      exact hk.fails t' (by omega) (by omega)
    · rw [h.fails t ht (Nat.not_le.mp hn)]
      rfl

theorem costs_within {k : Layout β} {b : β} {grown : Tally → Tally} {m : ℕ}
    (hgrown : ∀ t, (grown t).memory = t.memory + n) (hk : Costs k b m) :
    Costs (do let t ← get; within (grown t); k) b (n + m) where
  fits t ht := by
    obtain ⟨t', hrun, hmemory⟩ := hk.fits (grown t) (by rw [hgrown]; omega)
    refine ⟨t', ?_, by rw [hmemory, hgrown, Nat.add_assoc]⟩
    have hle : (grown t).memory ≤ sizeLimit := by
      rw [hgrown]
      omega
    show (within (grown t) >>= fun _ ↦ k).run t = _
    rw [within, if_pos hle]
    exact hrun
  fails t ht hlt := by
    show (within (grown t) >>= fun _ ↦ k).run t = _
    unfold within
    split
    · next hle => exact hk.fails _ hle (by rw [hgrown]; omega)
    · rfl

theorem costs_addState {k : Layout β} {b : β} {m : ℕ} (listed : ℕ) (hk : Costs k b m) :
    Costs (do let _ ← addState listed; k) b (stateSize + listed + m) := by
  have hmemory (t : Tally) : Tally.memory ⟨t.states + 1, t.listed + listed⟩ =
      t.memory + (stateSize + listed) := by
    simp only [Tally.memory, Nat.add_mul]
    omega
  simpa only [addState, bind_assoc, pure_bind] using costs_within hmemory hk

theorem costs_addIdle : Costs addIdle () stateSize :=
  costs_addState 0 (costs_return ())

theorem costs_addAlternative : Costs addAlternative () alternativeSize := by
  have hmemory (t : Tally) : Tally.memory { t with listed := t.listed + alternativeSize } =
      t.memory + alternativeSize := (Nat.add_assoc ..).symm
  simpa only [addAlternative, bind_pure_unit, Nat.add_zero] using
    costs_within hmemory (costs_return ())

theorem costs_idle : Costs idle .leading stateSize :=
  .of_eq (costs_addIdle.bind (costs_return _)) rfl

theorem costs_chain_idle (n : ℕ) :
    Costs (chain (List.replicate n idle)) .leading (Nat.max n 1 * stateSize) := by
  have hone : Costs (do let after ← idle; Ending.leading.lead; return after) .leading stateSize :=
    .of_eq (costs_idle.bind ((costs_return ()).bind (costs_return _))) rfl
  have hmore (n : ℕ) : Costs ((List.replicate n idle).foldlM (fun (before : Ending) q ↦ do
      let after ← q
      before.lead
      return after) .leading) .leading (n * stateSize) := by
    induction n with
    | zero => exact .of_eq (costs_return _) (Nat.zero_mul _).symm
    | succ n ih =>
      rw [List.replicate_succ, List.foldlM_cons]
      exact .of_eq (hone.bind ih) (by rw [Nat.add_mul]; omega)
  cases n with
  | zero => exact costs_idle
  | succ n =>
    have hmax : Nat.max (n + 1) 1 = 1 + n := (Nat.max_eq_left (by omega)).trans (Nat.add_comm ..)
    rw [List.replicate_succ, hmax]
    exact .of_eq (costs_idle.bind (hmore n)) (by rw [Nat.add_mul]; omega)

end Automaton

namespace Plan

open Automaton

theorem costs_anywhere : Costs anywhere .forking 108 :=
  .of_eq (costs_addIdle.bind (costs_addIdle.bind
    (costs_addState _ (costs_addAlternative.bind (costs_return _))))) rfl

theorem staysWithin_iff {l : Layout Unit} {n : ℕ} (h : Costs l () n) :
    staysWithin l ↔ n ≤ sizeLimit := by
  have hzero : Tally.memory {} = 0 := rfl
  rw [staysWithin]
  rcases Nat.lt_or_ge sizeLimit n with hlt | hle
  · rw [h.fails {} (by omega) (by omega)]
    simpa using hlt
  · obtain ⟨t, hrun, -⟩ := h.fits {} (by omega)
    rw [hrun]
    simpa using hle

def textLimit : ℕ := 327673

variable {cs : List (CharSet × Char)}

theorem costs_text (backwards : Bool) : Costs ((Plan.text cs).layOut backwards) .leading
    (Nat.max (textLength cs) 1 * stateSize) := by
  rw [layOut, List.map_const', textLength]
  exact costs_chain_idle _

theorem costs_forwards_text :
    Costs (Plan.text cs).forwards () (Nat.max (textLength cs) 1 * 32 + 208) := by
  have hmarked : Costs (marked ((Plan.text cs).layOut false)) .leading
      (Nat.max (textLength cs) 1 * 32 + 64) :=
    .of_eq (costs_addIdle.bind ((costs_text false).bind
      (costs_addIdle.bind ((costs_return ()).bind (costs_return _)))))
      (by simp only [stateSize]; omega)
  exact .of_eq (costs_anywhere.bind (hmarked.bind (costs_addIdle.bind costs_addAlternative)))
    (by simp only [stateSize, alternativeSize]; omega)

theorem costs_backwards_text :
    Costs (Plan.text cs).backwards () (Nat.max (textLength cs) 1 * 32 + 144) :=
  .of_eq (costs_anywhere.bind ((costs_text true).bind
    (costs_addIdle.bind ((costs_return ()).bind costs_addAlternative))))
    (by simp only [stateSize, alternativeSize]; omega)

theorem fits_text_iff : (Plan.text cs).fits ↔ textLength cs ≤ textLimit := by
  rw [fits, Bool.and_eq_true, staysWithin_iff costs_forwards_text,
    staysWithin_iff costs_backwards_text, sizeLimit, textLimit]
  have hmax : Nat.max (textLength cs) 1 = max (textLength cs) 1 := rfl
  omega

theorem ofText_eq_text {f : Flags} (hf : f.caseInsensitive = false) (text : List Char) :
    ofText f text = .text (text.map fun c ↦ (.single c, c)) := by
  have hchar (c : Char) :
      ofRanges (Reader.charSet f c) (Reader.charSet f c).ranges = .text [(.single c, c)] := by
    simp [Reader.charSet, hf, CharSet.ranges, ofRanges]
  have hjoined (c : Char) (text : List Char) :
      joinTexts ((c :: text).map fun c ↦ .text [(.single c, c)]) =
        [.text ((c :: text).map fun c ↦ (.single c, c))] := by
    induction text generalizing c with
    | nil => rfl
    | cons d text ih => rw [List.map_cons, joinTexts, List.foldr_cons, ← joinTexts, ih]; rfl
  simp only [ofText, hchar]
  cases text with
  | nil => rfl
  | cons c text =>
    unfold ofSeq
    generalize hqs : List.flatMap _ _ = qs
    have hflat : qs = (c :: text).map fun c ↦ .text [(.single c, c)] := by
      rw [← hqs, List.flatMap_map]
      exact List.map_eq_flatMap.symm
    rw [hflat, hjoined]

theorem fits_ofText_iff {f : Flags} (hf : f.caseInsensitive = false) (text : List Char) :
    (ofText f text).fits ↔ (Bytes.ofChars text).length ≤ textLimit := by
  rw [ofText_eq_text hf, fits_text_iff, textLength, textBytes, List.map_map]
  simp [Function.comp_def]

end Plan

namespace Ranges

variable {a b : ℕ}

theorem ofList_single : ofList [(a, a)] = [(a, a)] := by
  rw [ofList, List.mergeSort_singleton]
  rfl

theorem ofList_swap (h : a < b) : ofList [(b, b), (a, a)] = joinFrom a a [(b, b)] := by
  have hsorted : [(b, b), (a, a)].mergeSort (fun r s ↦ r.1 ≤ s.1) = [(a, a), (b, b)] := by
    refine ((List.mergeSort_perm _ _).trans (.swap ..)).eq_of_pairwise (fun r s hr hs hrs hsr ↦ ?_)
      (List.pairwise_mergeSort (by grind) (by grind) _) (by simpa using Nat.le_of_lt h)
    rw [List.mem_mergeSort] at hr
    grind
  rw [ofList, hsorted]

end Ranges

end MountSweep.Regex
