import Mathlib.Algebra.Group.Nat.Defs
import Mathlib.Data.List.Nodup
import Mathlib.Data.List.Perm.Basic
import Mathlib.Data.Nat.Basic
import Mathlib.Order.Basic
import MountSweep.Names.Threads
import MountSweep.Proofs.Settings

namespace MountSweep.NameGenerator

variable {Thread Source : Type} {moves moves' : List (Move Thread Source)}
  {s s' s'' : Calls Thread Source} {m : Move Thread Source} {g : Source}

theorem number_lt_number {c d : Call Thread Source} {n : UInt64} (hcd : c.drawn < d.drawn)
    (hd : d.drawn < n) : c.number < d.number := by
  rw [UInt64.lt_iff_toNat_lt] at hcd hd
  have hn := n.toNat_lt
  rw [Call.number, Call.number, UInt64.lt_iff_toNat_lt, UInt64.toNat_add, UInt64.toNat_add,
    UInt64.toNat_one]
  omega

variable [DecidableEq Source]

namespace Calls

def returnedBy (s : Calls Thread Source) (g : Source) : List (Call Thread Source) :=
  s.returned.filter fun c ↦ c.source = g

def underWayAt (s : Calls Thread Source) (g : Source) : List (Call Thread Source) :=
  s.underWay.filter fun c ↦ c.source = g

def drawnBy (s : Calls Thread Source) (g : Source) : List (Call Thread Source) :=
  s.returnedBy g ++ s.underWayAt g

def only (s : Calls Thread Source) (g : Source) : Calls Thread Source where
  generators g' := if g' = g then s.generators g else {}
  underWay := s.underWayAt g
  returned := s.returnedBy g

end Calls

open Calls

theorem Step.threads_nodup (hm : Step s m s') (h : (s.underWay.map Call.thread).Nodup) :
    (s'.underWay.map Call.thread).Nodup := by
  cases hm with
  | @draw t g idle =>
    rw [List.map_append, List.nodup_append']
    refine ⟨h, List.nodup_singleton _, ?_⟩
    rw [List.map_singleton, List.disjoint_singleton]
    intro ht
    obtain ⟨c, hc, rfl⟩ := List.mem_map.mp ht
    exact idle c hc rfl
  | @give before after c hsplit =>
    rw [hsplit] at h
    have hsub : (before ++ after).Sublist (before ++ c :: after) :=
      (List.Sublist.refl _).append (List.sublist_cons_self _ _)
    exact (hsub.map _).nodup h

theorem Reaches.threads_nodup (h : Reaches moves s) : (s.underWay.map Call.thread).Nodup := by
  induction h with
  | start => exact List.nodup_nil
  | step _ hm ih => exact hm.threads_nodup ih

theorem Step.drawnBy_cases (hm : Step s m s') (g : Source) :
    ((s'.drawnBy g).Perm (s.drawnBy g) ∧ s'.generators g = s.generators g) ∨
    ∃ t, s'.drawnBy g = s.drawnBy g ++ [⟨t, g, (s.generators g).issued⟩] ∧
      (s'.generators g).issued = (s.generators g).issued + 1 := by
  cases hm with
  | @draw t g' idle =>
    by_cases hg : g' = g
    · subst hg
      refine .inr ⟨t, ?_, ?_⟩
      · simp [drawnBy, returnedBy, underWayAt, NameGenerator.draw]
      · simp [NameGenerator.draw]
    · refine .inl ⟨?_, ?_⟩
      · simp [drawnBy, returnedBy, underWayAt, hg]
      · simp [Ne.symm hg]
  | @give before after c hsplit =>
    refine .inl ⟨?_, rfl⟩
    have hcalls : ((s.returned ++ [c]) ++ (before ++ after)).Perm (s.returned ++ s.underWay) := by
      rw [hsplit, List.append_assoc, List.singleton_append]
      exact List.Perm.append_left _ List.perm_middle.symm
    simpa only [drawnBy, returnedBy, underWayAt, List.filter_append] using
      hcalls.filter fun c ↦ decide (c.source = g)

/-- The numbers drawn are the first ones, in the order of the draws, and the generator knows how
many they are. -/
theorem Reaches.drawn_perm (h : Reaches moves s) (g : Source) :
    (s.generators g).issued = UInt64.ofNat (s.drawnBy g).length ∧
    ((s.drawnBy g).map Call.drawn).Perm ((List.range (s.drawnBy g).length).map UInt64.ofNat) := by
  induction h with
  | start => exact ⟨rfl, .nil⟩
  | @step moves s s' m _ hm ih =>
    obtain ⟨hissued, hperm⟩ := ih
    rcases hm.drawnBy_cases g with ⟨hsame, hgen⟩ | ⟨t, hnew, hcount⟩
    · rw [hgen, hsame.length_eq]
      exact ⟨hissued, (hsame.map _).trans hperm⟩
    · rw [hcount, hissued, hnew, List.length_append, List.length_singleton, List.map_append,
        List.range_succ, List.map_append]
      refine ⟨(UInt64.ofNat_add _ 1).symm, hperm.append ?_⟩
      rw [List.map_singleton, List.map_singleton, hissued]

theorem Step.length_drawnBy_le (hm : Step s m s') (g : Source) :
    (s.drawnBy g).length ≤ (s'.drawnBy g).length := by
  rcases hm.drawnBy_cases g with ⟨hsame, -⟩ | ⟨t, hnew, -⟩
  · exact hsame.length_eq.ge
  · rw [hnew, List.length_append]
    exact Nat.le_add_right _ _

/-- As long as the counter has not gone round, what it says is greater than all that was drawn. -/
theorem Reaches.drawn_lt (h : Reaches moves s) (hg : (s.drawnBy g).length < 2 ^ 64)
    {c : Call Thread Source} (hc : c ∈ s.drawnBy g) : c.drawn < (s.generators g).issued := by
  obtain ⟨hissued, hperm⟩ := h.drawn_perm g
  obtain ⟨k, hk, hdrawn⟩ := List.mem_map.mp (hperm.subset (List.mem_map_of_mem hc))
  have hlt : k < (s.drawnBy g).length := List.mem_range.mp hk
  rw [hissued, ← hdrawn, UInt64.lt_iff_toNat_lt, UInt64.toNat_ofNat_of_lt' (hlt.trans hg),
    UInt64.toNat_ofNat_of_lt' hg]
  exact hlt

/-- Of two calls of a generator by one thread the first has the smaller number. -/
def Ordered (g : Source) (c d : Call Thread Source) : Prop :=
  c.source = g → d.source = g → c.thread = d.thread → c.drawn < d.drawn

theorem Reaches.ordered (h : Reaches moves s) (hg : (s.drawnBy g).length < 2 ^ 64) :
    s.returned.Pairwise (Ordered g) ∧ ∀ c ∈ s.returned, ∀ d ∈ s.underWay, Ordered g c d := by
  induction h with
  | start => exact ⟨.nil, nofun⟩
  | @step moves s s' m h hm ih =>
    have hbound : (s.drawnBy g).length < 2 ^ 64 := (hm.length_drawnBy_le g).trans_lt hg
    obtain ⟨hreturned, hbetween⟩ := ih hbound
    cases hm with
    | @draw t g' idle =>
      refine ⟨hreturned, fun c hc d hd ↦ ?_⟩
      rcases List.mem_append.mp hd with hd | hd
      · exact hbetween c hc d hd
      · intro hcg hdg _
        rw [List.mem_singleton] at hd
        subst hd
        subst hdg
        have hmem : c ∈ s.drawnBy g' :=
          List.mem_append_left _ (List.mem_filter.mpr ⟨hc, decide_eq_true hcg⟩)
        exact h.drawn_lt hbound hmem
    | @give before after c hsplit =>
      have hc : c ∈ s.underWay := by
        rw [hsplit]
        exact List.mem_append_right _ List.mem_cons_self
      have hsub {d : Call Thread Source} (hd : d ∈ before ++ after) : d ∈ s.underWay := by
        rw [hsplit]
        exact ((List.Sublist.refl _).append (List.sublist_cons_self _ _)).subset hd
      refine ⟨?_, fun d hd e he ↦ ?_⟩
      · rw [List.pairwise_append]
        refine ⟨hreturned, List.pairwise_singleton _ _, fun d hd e he ↦ ?_⟩
        rw [List.mem_singleton] at he
        exact he ▸ hbetween d hd c hc
      rcases List.mem_append.mp hd with hd | hd
      · exact hbetween d hd e (hsub he)
      · -- no other call under way is by the thread of this one
        intro _ _ hthread
        rw [List.mem_singleton] at hd
        subst hd
        have hnodup := h.threads_nodup
        rw [hsplit, List.map_append, List.map_cons, List.nodup_middle, ← List.map_append,
          List.nodup_cons] at hnodup
        exact absurd (hthread ▸ List.mem_map_of_mem he) hnodup.1

theorem Reaches.names_perm (h : Reaches moves s) (hg : (s.drawnBy g).length < 2 ^ 64) :
    ((s.drawnBy g).map Call.name).Perm
      ((List.range (s.drawnBy g).length).map fun k ↦ stem ++ toString (k + 1)) := by
  obtain ⟨-, hperm⟩ := h.drawn_perm g
  have hnames := hperm.map fun n ↦ nth (n + 1)
  rw [List.map_map, List.map_map] at hnames
  have hfirst : (List.range (s.drawnBy g).length).map ((fun n ↦ nth (n + 1)) ∘ UInt64.ofNat) =
      (List.range (s.drawnBy g).length).map fun k ↦ stem ++ toString (k + 1) := by
    refine List.map_congr_left fun k hk ↦ ?_
    have hlt : k + 1 < 2 ^ 64 := (Nat.succ_le_of_lt (List.mem_range.mp hk)).trans_lt hg
    have hnumber : (UInt64.ofNat k + 1).toNat = k + 1 := by
      rw [← UInt64.ofNat_one, ← UInt64.ofNat_add, UInt64.toNat_ofNat_of_lt' hlt]
    rw [Function.comp_apply, nth, hnumber]
  rwa [hfirst] at hnames

theorem Reaches.names_nodup (h : Reaches moves s) (hg : (s.drawnBy g).length < 2 ^ 64) :
    ((s.drawnBy g).map Call.name).Nodup := by
  rw [(h.names_perm hg).nodup_iff]
  refine List.nodup_range.map fun k l hkl ↦ ?_
  exact Nat.succ.inj (eq_of_toString_eq ((String.append_right_inj stem).mp hkl))

theorem Step.only (hm : Step s m s') (hg : m.source = g) : Step (s.only g) m (s'.only g) := by
  cases hm with
  | @draw t g' idle =>
    obtain rfl : g' = g := hg
    have hidle : ∀ c ∈ (s.only g').underWay, c.thread ≠ t :=
      fun c hc ↦ idle c (List.mem_of_mem_filter hc)
    have h := Step.draw g' hidle
    have hgenerators : Function.update (s.only g').generators g'
        ((s.only g').generators g').draw.2 =
        fun g ↦ if g = g' then (s.generators g').draw.2 else {} := by
      funext g
      by_cases hg : g = g' <;> simp [Calls.only, hg]
    rw [hgenerators] at h
    simpa [Calls.only, underWayAt, returnedBy] using h
  | @give before after c hsplit =>
    obtain rfl : c.source = g := hg
    have hsplit' : (s.only c.source).underWay =
        before.filter (fun d ↦ d.source = c.source) ++
          c :: after.filter (fun d ↦ d.source = c.source) := by
      simp [Calls.only, underWayAt, hsplit]
    have h := Step.give c hsplit'
    simpa [Calls.only, underWayAt, returnedBy] using h

theorem Step.only_eq (hm : Step s m s') (hg : m.source ≠ g) : s'.only g = s.only g := by
  cases hm with
  | @draw t g' idle =>
    have hne : g' ≠ g := hg
    simp [Calls.only, underWayAt, returnedBy, hne, hne.symm]
  | @give before after c hsplit =>
    have hne : c.source ≠ g := hg
    simp [Calls.only, underWayAt, returnedBy, hne, hsplit]

/-- What a generator has done is what it would have done if it alone had been called. -/
theorem Reaches.only (h : Reaches moves s) (g : Source) :
    Reaches (moves.filter fun m ↦ m.source = g) (s.only g) := by
  induction h with
  | start =>
    have hnone : ({} : Calls Thread Source).only g = {} := by
      simp [Calls.only, underWayAt, returnedBy]
    rw [hnone]
    exact .start
  | @step moves s s' m _ hm ih =>
    rw [List.filter_append]
    by_cases hg : m.source = g
    · rw [List.filter_singleton, decide_eq_true hg, cond_true]
      exact .step ih (hm.only hg)
    · rw [List.filter_singleton, decide_eq_false hg, cond_false, List.append_nil, hm.only_eq hg]
      exact ih

theorem step_give_iff {t : Thread} : Step s (.give t g) s' ↔ ∃ before c after,
    c.thread = t ∧ c.source = g ∧ s.underWay = before ++ c :: after ∧
      s' = { s with underWay := before ++ after, returned := s.returned ++ [c] } := by
  constructor
  · intro hm
    generalize hgive : Move.give t g = m at hm
    cases hm with
    | draw => cases hgive
    | @give before after c hsplit =>
      cases hgive
      exact ⟨before, c, after, rfl, rfl, hsplit, rfl⟩
  · rintro ⟨before, c, after, rfl, rfl, hsplit, rfl⟩
    exact .give c hsplit

theorem Step.unique (hm : Step s m s') (hm' : Step s m s'')
    (hthreads : (s.underWay.map Call.thread).Nodup) : s' = s'' := by
  cases m with
  | draw t g =>
    cases hm
    cases hm'
    rfl
  | give t g =>
    obtain ⟨before, c, after, hc, -, hsplit, rfl⟩ := step_give_iff.mp hm
    obtain ⟨before', c', after', hc', -, hsplit', rfl⟩ := step_give_iff.mp hm'
    have hsame : c = c' :=
      List.inj_on_of_nodup_map hthreads (by simp [hsplit]) (by simp [hsplit']) (hc.trans hc'.symm)
    subst hsame
    have hnodup : (before ++ c :: after).Nodup := hsplit ▸ hthreads.of_map
    obtain ⟨hbefore, hafter⟩ : c ∉ before ∧ c ∉ after := by
      rw [List.nodup_middle, List.nodup_cons, List.mem_append] at hnodup
      exact not_or.mp hnodup.1
    obtain ⟨rfl, -, rfl⟩ :=
      (List.append_cons_inj_of_notMem hbefore hafter).mp (hsplit.symm.trans hsplit')
    rfl

theorem Reaches.unique (h : Reaches moves s) (h' : Reaches moves s') : s = s' := by
  induction h generalizing s' with
  | start =>
    generalize hnil : ([] : List (Move Thread Source)) = moves at h'
    cases h' with
    | start => rfl
    | step => simp at hnil
  | @step moves s s₁ m h hm ih =>
    generalize hlast : moves ++ [m] = moves' at h'
    cases h' with
    | start => simp at hlast
    | @step moves' t t₁ m' h' hm' =>
      obtain ⟨rfl, hm''⟩ := List.append_inj' hlast rfl
      obtain rfl : m = m' := List.head_eq_of_cons_eq hm''
      obtain rfl := ih h'
      exact hm.unique hm' h.threads_nodup

/-- Calls that one thread makes one after another get what a sequence of calls gets. -/
theorem Reaches.exists_issue {Thread : Type} {moves : List (Move Thread ℕ)} {s : Calls Thread ℕ}
    {gens : List NameGenerator} (h : Reaches moves s) (hidle : s.underWay = [])
    (hgens : ∀ i g, gens[i]? = some g → s.generators i = g) (t : Thread) (is : List ℕ) :
    ∃ s', Reaches (moves ++ (is.filter (· < gens.length)).flatMap fun i ↦
        [.draw t i, .give t i]) s' ∧
      s'.returned.map Call.name = s.returned.map Call.name ++ NameGenerator.issue gens is := by
  induction is generalizing moves s gens with
  | nil => exact ⟨s, by simpa using h, by simp [NameGenerator.issue]⟩
  | cons i is ih =>
    rw [NameGenerator.issue]
    cases hi : gens[i]? with
    | none =>
      have hlen : ¬ i < gens.length := Nat.not_lt.mpr (List.getElem?_eq_none_iff.mp hi)
      rw [List.filter_cons_of_neg (by simpa using hlen)]
      exact ih h hidle hgens
    | some g =>
      obtain ⟨hlen, -⟩ := List.getElem?_eq_some_iff.mp hi
      have hdrawn := h.step (.draw (t := t) i (by simp [hidle]))
      have hsplit : s.underWay ++ [⟨t, i, (s.generators i).draw.1⟩] =
          [] ++ ⟨t, i, (s.generators i).draw.1⟩ :: [] := by rw [hidle]
      have hgiven := hdrawn.step (.give _ hsplit)
      have hset : ∀ j g', (gens.set i g.next.2)[j]? = some g' →
          Function.update s.generators i (s.generators i).draw.2 j = g' := by
        intro j g' hj
        by_cases hij : i = j
        · subst hij
          rw [List.getElem?_set_self hlen] at hj
          rw [Function.update_self, hgens i g hi]
          exact Option.some.inj hj
        · rw [List.getElem?_set_ne hij] at hj
          rw [Function.update_of_ne (Ne.symm hij), hgens j g' hj]
      obtain ⟨s', hs', hnames⟩ := ih hgiven rfl hset
      have hname : (⟨t, i, (s.generators i).draw.1⟩ : Call Thread ℕ).name = g.next.1 := by
        rw [hgens i g hi]
        rfl
      refine ⟨s', ?_, ?_⟩
      · rw [List.filter_cons_of_pos (by simpa using hlen), List.flatMap_cons]
        simpa using hs'
      · rw [hnames, List.map_append, List.map_singleton, hname, List.append_assoc]
        rfl

/-- A generator that has drawn fewer numbers than its counter can hold has given out the first
names, each once: the calls that have returned have some of them, and all of them when none is under
way. A thread gets its names in the order of their numbers, and what other generators are asked for
makes no difference. Calls made one after another get the names of `issue`. -/
theorem names_unique (h : Reaches moves s) (g : Source) (hg : (s.drawnBy g).length < 2 ^ 64) :
    ((s.drawnBy g).map Call.name).Perm
      ((List.range (s.drawnBy g).length).map fun k ↦ "testfile_" ++ toString (k + 1)) ∧
    (s.underWayAt g = [] → ((s.returnedBy g).map Call.name).Perm
      ((List.range (s.returnedBy g).length).map fun k ↦ "testfile_" ++ toString (k + 1))) ∧
    ((s.returnedBy g).map Call.name).Nodup ∧
    ((s.returnedBy g).Pairwise fun c d ↦ c.thread = d.thread → c.number < d.number) ∧
    (∀ moves' s', Reaches moves' s' →
      (moves'.filter fun m ↦ m.source = g) = moves.filter (fun m ↦ m.source = g) →
        s'.only g = s.only g) ∧
    ∀ (t : Thread) n is, ∃ s',
      Reaches ((is.filter (· < n)).flatMap fun i ↦ [.draw t i, .give t i]) s' ∧
      s'.returned.map Call.name = issue (List.replicate n {}) is := by
  have hall := h.names_perm hg
  refine ⟨hall, fun hnone ↦ ?_, ?_, ?_, fun moves' s' h' hsame ↦ ?_, fun t n is ↦ ?_⟩
  · rw [drawnBy, hnone, List.append_nil] at hall
    exact hall
  · have hnodup := h.names_nodup hg
    rw [drawnBy, List.map_append] at hnodup
    exact hnodup.of_append_left
  · refine (h.ordered hg).1.filter (fun c ↦ c.source = g) |>.imp_of_mem ?_
    intro c d hc hd hcd hthread
    have hsource {c : Call Thread Source} (hc : c ∈ s.returnedBy g) : c.source = g :=
      of_decide_eq_true (List.mem_filter.mp hc).2
    exact number_lt_number (hcd (hsource hc) (hsource hd) hthread)
      (h.drawn_lt hg (List.mem_append_left _ hd))
  · have honly := h'.only g
    rw [hsame] at honly
    exact honly.unique (h.only g)
  · have hfresh : ∀ i g, (List.replicate n ({} : NameGenerator))[i]? = some g →
        (({} : Calls Thread ℕ).generators i) = g := by
      intro i g hi
      exact (List.eq_of_mem_replicate (List.mem_of_getElem? hi)).symm
    simpa using Reaches.exists_issue .start rfl hfresh t is

/-- Two threads call one generator; the second returns first and goes on to another generator. -/
def overtaking : List (Move Bool Bool) :=
  [.draw false false, .draw true false, .give true false, .draw true true, .give false false]

/-- The call that returns last has the first name. -/
theorem overtaking_names_unique :
    ∃ s : Calls Bool Bool, Reaches overtaking s ∧ (s.drawnBy false).length < 2 ^ 64 ∧
      (s.returnedBy false).map Call.name = ["testfile_2", "testfile_1"] ∧
      ((s.returnedBy false).map Call.name).Perm ["testfile_1", "testfile_2"] ∧
      ((s.returnedBy false).map Call.name).Nodup ∧
      ((s.returnedBy false).Pairwise fun c d ↦ c.thread = d.thread → c.number < d.number) ∧
      ∀ s', Reaches [.draw false false, .draw true false, .give true false, .give false false] s' →
        s'.only false = s.only false := by
  have h₀ : Reaches [] ({} : Calls Bool Bool) := .start
  have h₁ := h₀.step (.draw (t := false) false nofun)
  have h₂ := h₁.step (.draw (t := true) false (by simp))
  have h₃ := h₂.step (@Step.give _ _ _ _ [_] [] _ rfl)
  have h₄ := h₃.step (.draw (t := true) true (by simp))
  have h₅ := h₄.step (@Step.give _ _ _ _ [] [_] _ rfl)
  obtain ⟨-, hreturned, hnodup, hordered, honly, -⟩ := names_unique h₅ false (by decide)
  exact ⟨_, h₅, by decide, by decide +kernel, hreturned rfl, hnodup, hordered,
    fun s' h' ↦ honly _ s' h' rfl⟩

end MountSweep.NameGenerator
