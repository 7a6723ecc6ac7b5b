import Mathlib.Algebra.GroupWithZero.Nat
import Mathlib.Algebra.Order.BigOperators.Group.List
import Mathlib.Algebra.Order.Group.Nat
import Mathlib.Data.List.Nodup
import MountSweep.Proofs.Sweep.Accounting

namespace List

variable {α : Type} [DecidableEq α] {a b x : α} {l : List α}

theorem eraseReps_loop (a : α) (l acc : List α) :
    eraseRepsBy.loop (· == ·) a l acc = acc.reverse ++ (a :: l).eraseReps := by
  induction l generalizing a acc with
  | nil => simp [eraseReps, eraseRepsBy, eraseRepsBy.loop]
  | cons b l ih =>
    have hone : (a :: b :: l).eraseReps = eraseRepsBy.loop (· == ·) a (b :: l) [] := rfl
    rw [hone, eraseRepsBy.loop, eraseRepsBy.loop]
    split
    · rw [ih, ih, reverse_nil, nil_append]
    · rw [ih, ih, reverse_cons, reverse_singleton, append_assoc]

theorem eraseReps_cons_cons (a b : α) (l : List α) :
    (a :: b :: l).eraseReps = if a = b then (b :: l).eraseReps else a :: (b :: l).eraseReps := by
  have hone : (a :: b :: l).eraseReps = eraseRepsBy.loop (· == ·) a (b :: l) [] := rfl
  rw [hone, eraseRepsBy.loop]
  by_cases h : a = b
  · subst h
    simp [eraseReps_loop]
  · rw [beq_false_of_ne h, if_neg h]
    exact eraseReps_loop b l [a]

theorem mem_eraseReps : x ∈ l.eraseReps ↔ x ∈ l := by
  induction l with
  | nil => rfl
  | cons a l ih =>
    cases l with
    | nil => rfl
    | cons b l =>
      rw [eraseReps_cons_cons]
      split
      · next h => rw [ih, h]; simp
      · rw [mem_cons, mem_cons (a := x) (b := a), ih]

theorem nodup_eraseReps {r : α → α → Prop} (hr : ∀ a b, r a b → r b a → a = b)
    (h : l.Pairwise r) : l.eraseReps.Nodup := by
  induction l with
  | nil => exact nodup_nil
  | cons a l ih =>
    obtain ⟨ha, hl⟩ := pairwise_cons.mp h
    cases l with
    | nil => exact pairwise_singleton _ a
    | cons b l =>
      rw [eraseReps_cons_cons]
      split
      · exact ih hl
      · next hab =>
        refine nodup_cons.mpr ⟨fun hmem ↦ ?_, ih hl⟩
        rcases mem_cons.mp (mem_eraseReps.mp hmem) with rfl | hmem
        · exact hab rfl
        · exact hab (hr a b (ha b mem_cons_self) ((pairwise_cons.mp hl).1 a hmem))

end List

namespace MountSweep

open Posix

variable {σ : Type} {host : SweepHost σ} {w : Sweep} {made plan : List (Scenario × Variant)}
  {s s' : σ} {runs : List RunReport}

namespace ErrorCategory

instance : Std.LawfulEqOrd ErrorCategory where
  compare_self {c} := by cases c <;> rfl
  eq_of_compare {c d} h := by cases c <;> cases d <;> first | rfl | cases h

instance : Std.TransOrd ErrorCategory where
  eq_swap {c d} := by cases c <;> cases d <;> rfl
  isLE_trans {c d e} h h' := by
    have hrank (c d : ErrorCategory) : compare c d = compare c.ctorIdx d.ctorIdx := by
      cases c <;> cases d <;> rfl
    rw [hrank] at h h' ⊢
    exact Std.TransCmp.isLE_trans h h'

theorem mem_all (c : ErrorCategory) : c ∈ all := by cases c <;> decide

end ErrorCategory

namespace Outcome

variable {errors fs : List Error} {reason : String}

theorem ofErrors_eq_skipped : ofErrors errors = .skipped reason ↔
    errors ≠ [] ∧ (∀ e ∈ errors, e.isSkip) ∧
      reason = "; ".intercalate (errors.map Error.message) := by
  unfold ofErrors
  by_cases hne : errors = []
  · simp [hne]
  · by_cases hall : ∀ e ∈ errors, e.isSkip
    · simp only [if_neg hne, List.all_eq_true.mpr hall, if_true, skipped.injEq]
      exact ⟨fun h ↦ ⟨hne, hall, h.symm⟩, fun h ↦ h.2.2.symm⟩
    · simp only [if_neg hne, mt List.all_eq_true.mp hall, reduceCtorEq, hall, false_and, and_false,
        Bool.false_eq_true, if_false]

theorem ofErrors_eq_failed_iff : ofErrors errors = .failed fs ↔
    (∃ e ∈ errors, e.isSkip = false) ∧ fs = errors.filter fun e ↦ !e.isSkip := by
  constructor
  · intro h
    unfold ofErrors at h
    split at h
    · cases h
    · split at h
      · cases h
      · next hall =>
        obtain ⟨e, he, hs⟩ := List.all_eq_false.mp (Bool.not_eq_true _ ▸ hall)
        cases h
        exact ⟨⟨e, he, by simpa using hs⟩, rfl⟩
  · rintro ⟨⟨e, he, hs⟩, rfl⟩
    exact ofErrors_eq_failed he hs

theorem keeps_of_ofErrors (h : ofErrors errors = .failed fs) :
    fs ≠ [] ∧ ∀ e ∈ fs, e.isSkip = false ∧ e.category ≠ .infrastructure := by
  obtain ⟨⟨e, he, hs⟩, rfl⟩ := ofErrors_eq_failed_iff.mp h
  refine ⟨List.ne_nil_of_mem (List.mem_filter.mpr ⟨he, by simp [hs]⟩), fun e he ↦ ?_⟩
  have hs : e.isSkip = false := by simpa using (List.mem_filter.mp he).2
  refine ⟨hs, fun hc ↦ ?_⟩
  unfold Error.isSkip at hs
  split at hs
  · cases hs
  · exact decide_eq_false_iff_not.mp hs hc

def hits (c : ErrorCategory) : Outcome → Bool
  | .failed errors => errors.any fun e ↦ e.category = c
  | _ => false

theorem mem_categories {c : ErrorCategory} {o : Outcome} : c ∈ o.categories ↔ o.hits c := by
  cases o with
  | failed errors => simp [categories, hits, List.mem_eraseReps]
  | _ => simp [categories, hits]

theorem nodup_categories (o : Outcome) : o.categories.Nodup := by
  cases o with
  | failed errors =>
    refine List.nodup_eraseReps (fun c d hcd hdc ↦ ?_) (List.pairwise_mergeSort
      (fun _ _ _ ↦ Std.TransCmp.isLE_trans) (fun c d ↦ ?_) (errors.map Error.category))
    · exact Std.LawfulEqCmp.eq_of_compare (Std.OrientedCmp.isLE_antisymm hcd hdc)
    · cases c <;> cases d <;> rfl
  | _ => exact List.nodup_nil

theorem count_categories (c : ErrorCategory) (o : Outcome) :
    o.categories.count c = if o.hits c then 1 else 0 := by
  by_cases h : o.hits c
  · rw [if_pos h]
    exact List.count_eq_one_of_mem o.nodup_categories (mem_categories.mpr h)
  · rw [if_neg h]
    exact List.count_eq_zero_of_not_mem (mt mem_categories.mp h)

/-- The outcome was folded from errors, or the run was left to the superuser. -/
inductive Arises : Outcome → Prop
  | folded (errors : List Error) : Arises (ofErrors errors)
  | unprivileged : Arises (.skipped "Root required")

variable {o : Outcome}

/-- A run has failed if it has hit some category, which is never that of the machine. -/
theorem Arises.isFailed_iff (h : o.Arises) : o.isFailed ↔ ∃ c, o.hits c := by
  cases h with
  | unprivileged => simp [isFailed, hits]
  | folded errors =>
    cases ho : ofErrors errors with
    | failed fs =>
      obtain ⟨e, he⟩ := List.exists_mem_of_ne_nil fs (keeps_of_ofErrors ho).1
      exact ⟨fun _ ↦ ⟨e.category, List.any_eq_true.mpr ⟨e, he, decide_eq_true rfl⟩⟩, fun _ ↦ rfl⟩
    | _ => simp [isFailed, hits]

theorem Arises.not_hits_infrastructure (h : o.Arises) : ¬ o.hits .infrastructure := by
  cases h with
  | unprivileged => simp [hits]
  | folded errors =>
    cases ho : ofErrors errors with
    | failed fs =>
      intro hhits
      obtain ⟨e, he, hc⟩ := List.any_eq_true.mp hhits
      exact ((keeps_of_ofErrors ho).2 e he).2 (of_decide_eq_true hc)
    | _ => simp [hits]

theorem isFailed_of_hits {c : ErrorCategory} (h : o.hits c) : o.isFailed := by
  cases o with
  | failed errors => rfl
  | _ => cases h

/-- Which categories a run hits depends on which errors it has had, not on their order or number. -/
theorem hits_ofErrors_congr {es es' : List Error} (h : ∀ e, e ∈ es ↔ e ∈ es') (c : ErrorCategory) :
    (ofErrors es).hits c = (ofErrors es').hits c := by
  have hhits (es : List Error) : (ofErrors es).hits c ↔
      ∃ e ∈ es, e.isSkip = false ∧ e.category = c := by
    cases ho : ofErrors es with
    | failed fs =>
      obtain ⟨-, rfl⟩ := ofErrors_eq_failed_iff.mp ho
      simp [hits]
    | passed =>
      obtain rfl := ofErrors_eq_passed.mp ho
      simp [hits]
    | skipped reason =>
      have hall := (ofErrors_eq_skipped.mp ho).2.1
      simp +contextual [hits, hall]
  rw [Bool.eq_iff_iff, hhits, hhits]
  simp only [h]

end Outcome

namespace Report

open Outcome

variable {r : Report} {c : ErrorCategory} {n : ℕ}

def hits (r : Report) (c : ErrorCategory) : ℕ := r.runs.countP (·.outcome.hits c)

theorem getElem?_foldl_countOne (cs : List ErrorCategory) (counts : Std.TreeMap ErrorCategory ℕ) :
    (cs.foldl countOne counts)[c]? =
      if c ∈ cs then some (counts[c]?.getD 0 + cs.count c) else counts[c]? := by
  induction cs generalizing counts with
  | nil => simp
  | cons d cs ih =>
    rw [List.foldl_cons, ih, countOne, Std.TreeMap.getElem?_alter]
    by_cases hd : d = c
    · subst hd
      by_cases hmem : d ∈ cs
      · simp [hmem]
        omega
      · simp [hmem, List.count_eq_zero_of_not_mem hmem]
    · have hne : compare d c ≠ .eq := fun h ↦ hd (Std.LawfulEqCmp.eq_of_compare h)
      simp [hne, Ne.symm hd, hd]

theorem count_flatMap_categories (r : Report) (c : ErrorCategory) :
    (r.runs.flatMap (·.outcome.categories)).count c = r.hits c := by
  rw [hits]
  induction r.runs with
  | nil => rfl
  | cons run runs ih =>
    rw [List.flatMap_cons, List.count_append, ih, count_categories, List.countP_cons, Nat.add_comm]

theorem mem_failuresByCategory :
    (c, n) ∈ r.failuresByCategory ↔ n ≠ 0 ∧ n = r.hits c := by
  have hmem : c ∈ r.runs.flatMap (·.outcome.categories) ↔ 0 < r.hits c := by
    rw [← List.count_pos_iff, count_flatMap_categories]
  rw [failuresByCategory, Std.TreeMap.mem_toList_iff_getElem?_eq_some, getElem?_foldl_countOne,
    count_flatMap_categories, Std.TreeMap.getElem?_emptyc, Option.getD_none, Nat.zero_add]
  split
  · next h =>
    have hpos := hmem.mp h
    rw [Option.some.injEq]
    omega
  · next h =>
    have hzero := mt hmem.mpr h
    simp only [reduceCtorEq, false_iff]
    omega

/-- The summary lists the categories that were hit in their order, each with the number of runs that
hit it. -/
theorem failuresByCategory_eq (r : Report) : r.failuresByCategory =
    (ErrorCategory.all.map fun c ↦ (c, r.hits c)).filter fun p ↦ p.2 ≠ 0 := by
  let before (p q : ErrorCategory × ℕ) : Prop := compare p.1 q.1 = .lt
  have hirrefl (p : ErrorCategory × ℕ) : ¬ before p p := by
    simp [before]
  have hsorted : r.failuresByCategory.Pairwise before := Std.TreeMap.ordered_keys_toList
  have hall : ErrorCategory.all.Pairwise fun c d ↦ compare c d = .lt := by decide
  have hsorted' : ((ErrorCategory.all.map fun c ↦ (c, r.hits c)).filter
      fun p ↦ p.2 ≠ 0).Pairwise before := (List.pairwise_map.mpr hall).filter _
  have hnodup {l : List (ErrorCategory × ℕ)} (h : l.Pairwise before) : l.Nodup :=
    List.Pairwise.imp (S := (· ≠ ·)) (fun hpq heq ↦ hirrefl _ (heq ▸ hpq)) h
  have hmem (p : ErrorCategory × ℕ) : p ∈ r.failuresByCategory ↔
      p ∈ (ErrorCategory.all.map fun c ↦ (c, r.hits c)).filter fun p ↦ p.2 ≠ 0 := by
    obtain ⟨c, n⟩ := p
    rw [mem_failuresByCategory, List.mem_filter, List.mem_map]
    constructor
    · rintro ⟨hn, rfl⟩
      exact ⟨⟨c, ErrorCategory.mem_all c, rfl⟩, by simpa using hn⟩
    · rintro ⟨⟨d, -, hd⟩, hn⟩
      obtain ⟨rfl, rfl⟩ := Prod.mk.injEq .. ▸ hd
      exact ⟨by simpa using hn, rfl⟩
  refine List.Perm.eq_of_pairwise (fun p q _ _ hpq hqp ↦ ?_) hsorted hsorted'
    ((List.perm_ext_iff_of_nodup (hnodup hsorted) (hnodup hsorted')).mpr hmem)
  exact absurd (Std.TransCmp.lt_trans hpq hqp) (hirrefl p)

/-- All outcomes were folded from errors, or their runs left to the superuser. -/
def Arises (r : Report) : Prop := ∀ run ∈ r.runs, run.outcome.Arises

theorem hits_le_failed (r : Report) (c : ErrorCategory) : r.hits c ≤ r.failed :=
  List.countP_mono_left fun _ _ ↦ isFailed_of_hits

theorem Arises.failed_le (h : r.Arises) : r.failed ≤ (ErrorCategory.all.map r.hits).sum := by
  have hruns {runs : List RunReport} (h : ∀ run ∈ runs, run.outcome.Arises) :
      runs.countP (·.outcome.isFailed) ≤
        (ErrorCategory.all.map fun c ↦ runs.countP (·.outcome.hits c)).sum := by
    induction runs with
    | nil => exact Nat.zero_le _
    | cons run runs ih =>
      obtain ⟨hrun, hruns⟩ := List.forall_mem_cons.mp h
      have hone : (if run.outcome.isFailed then 1 else 0) ≤
          (ErrorCategory.all.map fun c ↦ if run.outcome.hits c then 1 else 0).sum := by
        split
        · next hfailed =>
          obtain ⟨c, hc⟩ := hrun.isFailed_iff.mp hfailed
          refine List.le_sum_of_mem (List.mem_map.mpr ⟨c, ErrorCategory.mem_all c, ?_⟩)
          exact if_pos hc
        · exact Nat.zero_le _
      simp only [List.countP_cons, List.sum_map_add]
      exact Nat.add_le_add (ih hruns) hone
  exact hruns h

theorem sum_failuresByCategory (r : Report) :
    (r.failuresByCategory.map Prod.snd).sum = (ErrorCategory.all.map r.hits).sum := by
  rw [failuresByCategory_eq]
  induction ErrorCategory.all with
  | nil => rfl
  | cons c cs ih =>
    rw [List.map_cons, List.filter_cons, List.map_cons, List.sum_cons, ← ih]
    split
    · rfl
    · next h => simp_all

/-- The summary of a report says of each category in how many failed runs it was hit, and nothing of
the machine. It can be told from the runs in any order and from the errors of a run as a set. -/
structure Consistent (r : Report) : Prop where
  empty_iff : r.failuresByCategory = [] ↔ r.failed = 0
  infrastructure : ∀ n, (.infrastructure, n) ∉ r.failuresByCategory
  mem_iff : ∀ c n, (c, n) ∈ r.failuresByCategory ↔ n ≠ 0 ∧ n = r.hits c
  ordered : (r.failuresByCategory.map Prod.fst).Pairwise fun c d ↦ compare c d = .lt
  bounds : ∀ c n, (c, n) ∈ r.failuresByCategory → 1 ≤ n ∧ n ≤ r.failed
  total : r.failed ≤ (r.failuresByCategory.map Prod.snd).sum
  perm : ∀ runs, runs.Perm r.runs →
    ({ r with runs := runs } : Report).failuresByCategory = r.failuresByCategory
  sameErrors : ∀ before run after es es', r.runs = before ++ run :: after →
    run.outcome = ofErrors es → (∀ e, e ∈ es' ↔ e ∈ es) →
    ({ r with runs := before ++ { run with outcome := ofErrors es' } :: after } :
      Report).failuresByCategory = r.failuresByCategory

theorem failuresByCategory_congr {r' : Report} (h : ∀ c, r'.hits c = r.hits c) :
    r'.failuresByCategory = r.failuresByCategory := by
  rw [failuresByCategory_eq, failuresByCategory_eq]
  simp only [h]

theorem Arises.consistent (h : r.Arises) : r.Consistent where
  empty_iff := by
    constructor
    · intro hempty
      have hle := h.failed_le
      rw [← sum_failuresByCategory, hempty] at hle
      exact Nat.le_zero.mp hle
    · intro hzero
      refine List.eq_nil_iff_forall_not_mem.mpr fun ⟨c, n⟩ hmem ↦ ?_
      obtain ⟨hn, rfl⟩ := mem_failuresByCategory.mp hmem
      have hle := r.hits_le_failed c
      omega
  infrastructure n hmem := by
    obtain ⟨hn, rfl⟩ := mem_failuresByCategory.mp hmem
    obtain ⟨run, hrun, hhits⟩ := List.countP_pos_iff.mp (Nat.pos_of_ne_zero hn)
    exact (h run hrun).not_hits_infrastructure hhits
  mem_iff _ _ := mem_failuresByCategory
  ordered := List.pairwise_map.mpr Std.TreeMap.ordered_keys_toList
  bounds c n hmem := by
    obtain ⟨hn, rfl⟩ := mem_failuresByCategory.mp hmem
    exact ⟨Nat.pos_of_ne_zero hn, r.hits_le_failed c⟩
  total := by
    rw [sum_failuresByCategory]
    exact h.failed_le
  perm runs hperm := failuresByCategory_congr fun c ↦ hperm.countP_eq _
  sameErrors before run after es es' hruns hrun hes := by
    refine failuresByCategory_congr fun c ↦ ?_
    rw [hits, hits, hruns, List.countP_append, List.countP_append, List.countP_cons,
      List.countP_cons, hrun, hits_ofErrors_congr hes c]

end Report

namespace Sweep

theorem runOne_arises {sc : Scenario} {v : Variant} {run : RunReport}
    (hr : (w.runOne host sc v).run s = (.ok run, s')) : run.outcome.Arises := by
  obtain ⟨_, _, -, hr⟩ := Act.run_bind_eq_ok.mp hr
  obtain ⟨_, _, -, hr⟩ := Act.run_bind_eq_ok.mp hr
  dsimp only at hr
  split at hr <;> obtain ⟨outcome, _, ho, hr⟩ := Act.run_bind_eq_ok.mp hr <;>
    obtain ⟨_, _, -, hr⟩ := Act.run_bind_eq_ok.mp hr <;> cases hr
  · cases ho
    exact .unprivileged
  · rw [map_eq_pure_bind] at ho
    obtain ⟨errors, _, -, ho⟩ := Act.run_bind_eq_ok.mp ho
    cases ho
    exact .folded errors

theorem Made.arises (hm : Made host w made s runs s') : ∀ run ∈ runs, run.outcome.Arises := by
  induction hm with
  | nil s => exact fun _ h ↦ absurd h List.not_mem_nil
  | cons hi hr hm ih => exact List.forall_mem_cons.mpr ⟨runOne_arises hr, ih⟩

/-- The runs of a sweep end as their errors fold, but for those left to the superuser. -/
theorem runPlan_arises {report : Report}
    (h : (w.runPlan host plan).run s = (.ok report, s')) : report.Arises := by
  obtain ⟨_, _, -, hm, -⟩ := runPlan_eq_ok_iff.mp h
  exact hm.arises

end Sweep

open Outcome in
/-- Errors fold to a pass, to a skip with their messages, or to a failure of those among them that
do not skip, of which there are some and none of the machine. The summary of a report whose outcomes
came about in this way counts its failed runs. -/
theorem folding_and_summary_agree :
    (∀ errors, (ofErrors errors = .passed ↔ errors = []) ∧
      (∀ reason, ofErrors errors = .skipped reason ↔ errors ≠ [] ∧ (∀ e ∈ errors, e.isSkip) ∧
        reason = "; ".intercalate (errors.map Error.message)) ∧
      (∀ fs, ofErrors errors = .failed fs ↔
        (∃ e ∈ errors, e.isSkip = false) ∧ fs = errors.filter fun e ↦ !e.isSkip) ∧
      ∀ fs, ofErrors errors = .failed fs → fs ≠ [] ∧ ∀ e ∈ fs, e.category ≠ .infrastructure) ∧
    ∀ r : Report, r.Arises → r.Consistent := by
  refine ⟨fun errors ↦ ⟨ofErrors_eq_passed, fun _ ↦ ofErrors_eq_skipped,
    fun _ ↦ ofErrors_eq_failed_iff, fun fs h ↦ ?_⟩, fun r h ↦ h.consistent⟩
  obtain ⟨hne, hkept⟩ := keeps_of_ofErrors h
  exact ⟨hne, fun e he ↦ (hkept e he).2⟩

/-- Of four runs two fail, one of them in two ways and with an error of the machine besides. -/
theorem summary_of_four_runs :
    let runs : List RunReport :=
      [⟨"a", .ofErrors [.setup (.prematureExit "exit status: 1")], ⟨0⟩⟩,
        ⟨"b", .ofErrors [], ⟨0⟩⟩,
        ⟨"c", .ofErrors [.teardown (.didNotTerminate ⟨0⟩), .infrastructure "no user",
          .setup (.prematureExit "exit status: 2"), .teardown (.didNotTerminate ⟨0⟩)], ⟨0⟩⟩,
        ⟨"d", .skipped "Root required", ⟨0⟩⟩]
    (Report.mk runs 0).Arises ∧ (Report.mk runs 0).Consistent ∧
      (Report.mk runs 0).failuresByCategory = [(.setup, 2), (.teardown, 1)] := by
  intro runs
  have harises : (Report.mk runs 0).Arises := by
    simp only [Report.Arises, runs, List.forall_mem_cons]
    exact ⟨.folded _, .folded _, .folded _, .unprivileged, fun _ h ↦ absurd h List.not_mem_nil⟩
  refine ⟨harises, folding_and_summary_agree.2 _ harises, ?_⟩
  rw [Report.failuresByCategory_eq]
  decide

end MountSweep
