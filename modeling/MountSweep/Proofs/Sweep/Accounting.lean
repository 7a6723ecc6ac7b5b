import MountSweep.Proofs.Sweep.Window

namespace MountSweep

open Posix Time

variable {σ : Type} {host : SweepHost σ} {w : Sweep} {plan made left : List (Scenario × Variant)}
  {s s' : σ} {runs : List RunReport} {report : Report}

/-- The runs of `plan` are made one after another and reported as `runs`. No look before one of them
finds that the sweep has been asked to stop. -/
inductive Sweep.Made (host : SweepHost σ) (w : Sweep) :
    List (Scenario × Variant) → σ → List RunReport → σ → Prop
  | nil (s : σ) : Made host w [] s [] s
  | cons {sc : Scenario} {v : Variant} {rest : List (Scenario × Variant)} {s s₁ s' : σ}
      {run : RunReport} {runs : List RunReport} (hi : host.isInterrupted s = false)
      (hr : (w.runOne host sc v).run s = (.ok run, s₁))
      (hm : Made host w rest (host.printLine run.display s₁) runs s') :
      Made host w ((sc, v) :: rest) s (run :: runs) s'

/-- What a report says of a plan: which of its runs were made, how many were not, and how the sweep
went. -/
structure Report.Accounts (report : Report) (plan : List (Scenario × Variant)) : Prop where
  ids : report.runs.map RunReport.id =
    (plan.take report.runs.length).map fun p ↦ p.1.testId p.2
  total : report.runs.length + report.notRun = plan.length
  outcomes : report.passed + report.failed + report.skipped = report.runs.length
  success : report.isSuccess = true ↔
    report.runs.length = plan.length ∧ ∀ run ∈ report.runs, run.outcome.isFailed = false

namespace Sweep

theorem runOne_id {sc : Scenario} {v : Variant} {run : RunReport}
    (hr : (w.runOne host sc v).run s = (.ok run, s')) : run.id = sc.testId v := by
  obtain ⟨_, _, -, hr⟩ := Act.run_bind_eq_ok.mp hr
  obtain ⟨_, _, -, hr⟩ := Act.run_bind_eq_ok.mp hr
  dsimp only at hr
  split at hr <;>
  · obtain ⟨outcome, _, -, hr⟩ := Act.run_bind_eq_ok.mp hr
    obtain ⟨_, _, -, hr⟩ := Act.run_bind_eq_ok.mp hr
    cases hr
    rfl

namespace Made

theorem ids_eq (hm : Made host w made s runs s') :
    runs.map RunReport.id = made.map fun p ↦ p.1.testId p.2 := by
  induction hm with
  | nil s => rfl
  | cons hi hr hm ih => rw [List.map_cons, List.map_cons, ih, runOne_id hr]

theorem length_eq (hm : Made host w made s runs s') : runs.length = made.length := by
  have h := congrArg List.length hm.ids_eq
  simpa using h

end Made

theorem runPlan_nil : (w.runPlan host []).run s = (.ok {}, s) := rfl

theorem runPlan_interrupted {p : Scenario × Variant} (hi : host.isInterrupted s = true) :
    (w.runPlan host (p :: plan)).run s = (.ok { notRun := plan.length + 1 }, s) := by
  rw [runPlan, Act.run_bind, Act.run_get]
  simp only [hi, if_true]
  rfl

theorem runPlan_cons_eq_ok_iff {sc : Scenario} {v : Variant}
    (hi : host.isInterrupted s = false) :
    (w.runPlan host ((sc, v) :: plan)).run s = (.ok report, s') ↔
      ∃ run s₁ later, (w.runOne host sc v).run s = (.ok run, s₁) ∧
        (w.runPlan host plan).run (host.printLine run.display s₁) = (.ok later, s') ∧
        report = { later with runs := run :: later.runs } := by
  rw [runPlan, Act.run_bind, Act.run_get]
  simp only [hi]
  constructor
  · intro h
    obtain ⟨run, s₁, hr, h⟩ := Act.run_bind_eq_ok.mp h
    obtain ⟨_, s₂, hp, h⟩ := Act.run_bind_eq_ok.mp h
    cases hp
    obtain ⟨later, s₃, hl, h⟩ := Act.run_bind_eq_ok.mp h
    cases h
    exact ⟨run, s₁, later, hr, hl, rfl⟩
  · rintro ⟨run, s₁, later, hr, hl, rfl⟩
    refine Act.run_bind_eq_ok.mpr ⟨run, s₁, hr, ?_⟩
    refine Act.run_bind_eq_ok.mpr ⟨(), _, rfl, ?_⟩
    exact Act.run_bind_eq_ok.mpr ⟨later, s', hl, rfl⟩

/-- A sweep makes the first runs of its plan: all of them, or those before the first look that finds
that it has been asked to stop. -/
theorem runPlan_eq_ok_iff :
    (w.runPlan host plan).run s = (.ok report, s') ↔
      ∃ made left, plan = made ++ left ∧ Made host w made s report.runs s' ∧
        report.notRun = left.length ∧ (left ≠ [] → host.isInterrupted s' = true) := by
  induction plan generalizing s report with
  | nil =>
    rw [runPlan_nil]
    constructor
    · intro h
      cases h
      exact ⟨[], [], rfl, .nil _, rfl, fun h ↦ absurd rfl h⟩
    · rintro ⟨made, left, hplan, hm, hleft, -⟩
      obtain ⟨rfl, rfl⟩ := List.nil_eq_append_iff.mp hplan
      obtain ⟨runs, notRun⟩ := report
      cases hm
      cases hleft
      rfl
  | cons p plan ih =>
    obtain ⟨sc, v⟩ := p
    cases hi : host.isInterrupted s with
    | true =>
      rw [runPlan_interrupted hi]
      constructor
      · intro h
        cases h
        exact ⟨[], (sc, v) :: plan, rfl, .nil _, rfl, fun _ ↦ hi⟩
      · rintro ⟨made, left, hplan, hm, hleft, -⟩
        obtain ⟨runs, notRun⟩ := report
        cases hm with
        | nil =>
          rw [List.nil_append] at hplan
          subst hplan
          cases hleft
          rfl
        | cons hi' hr hm =>
          -- the look before this run would have found the same
          rw [hi] at hi'
          cases hi'
    | false =>
      rw [runPlan_cons_eq_ok_iff hi]
      constructor
      · rintro ⟨run, s₁, later, hr, hl, rfl⟩
        obtain ⟨made, left, rfl, hm, hleft, hstop⟩ := ih.mp hl
        exact ⟨(sc, v) :: made, left, rfl, .cons hi hr hm, hleft, hstop⟩
      · rintro ⟨made, left, hplan, hm, hleft, hstop⟩
        obtain ⟨runs, notRun⟩ := report
        cases hm with
        | nil =>
          have hne : left ≠ [] := by
            rintro rfl
            cases hplan
          rw [hstop hne] at hi
          cases hi
        | @cons _ _ rest _ s₁ _ run later _ hr hm =>
          cases hplan
          exact ⟨run, s₁, ⟨later, notRun⟩, hr, ih.mpr ⟨rest, left, rfl, hm, hleft, hstop⟩, rfl⟩

end Sweep

namespace Report

theorem countP_outcomes (runs : List RunReport) :
    runs.countP (·.outcome.isPassed) + runs.countP (·.outcome.isFailed) +
      runs.countP (·.outcome.isSkipped) = runs.length := by
  induction runs with
  | nil => rfl
  | cons run runs ih =>
    have hone : (if run.outcome.isPassed = true then 1 else 0) +
        (if run.outcome.isFailed = true then 1 else 0) +
        (if run.outcome.isSkipped = true then 1 else 0) = 1 := by
      cases run.outcome <;> rfl
    simp only [List.countP_cons, List.length_cons]
    omega

theorem isSuccess_iff (report : Report) :
    report.isSuccess = true ↔
      report.notRun = 0 ∧ ∀ run ∈ report.runs, run.outcome.isFailed = false := by
  rw [isSuccess, Bool.and_eq_true, decide_eq_true_iff, decide_eq_true_iff, and_comm, failed,
    List.countP_eq_zero]
  simp only [Bool.not_eq_true]

/-- The report of the runs that were made, with the number of the others, accounts for the plan. -/
theorem accounts_of_made (hm : Sweep.Made host w made s report.runs s')
    (hleft : report.notRun = left.length) : report.Accounts (made ++ left) where
  ids := by
    rw [hm.length_eq, List.take_left, hm.ids_eq]
  total := by
    rw [hm.length_eq, hleft, List.length_append]
  outcomes := countP_outcomes report.runs
  success := by
    have hzero : report.notRun = 0 ↔ report.runs.length = (made ++ left).length := by
      rw [hleft, hm.length_eq, List.length_append]
      omega
    rw [isSuccess_iff, hzero]

end Report

namespace Sweep

variable {child : Pid → σ → Prop} {scenarios : List Scenario}

theorem runOne_ends (hr : host.Reliable child) (ht : host.Timely) (hx : host.CommandsEnd)
    (hp : 0 < w.launcher.timeouts.pollInterval.nanos) (sc : Scenario) (v : Variant) (s : σ) :
    (w.runOne host sc v).Ends s := by
  have hlook (t : σ) : (get : Act σ σ).Ends t := Act.ends_of_run (Act.run_get t) nofun
  refine (hlook s).bind fun started s₁ _ ↦ (hlook s₁).bind fun t s₂ _ ↦ ?_
  have hreport (outcome : Outcome) (s₃ : σ) : (do
      let now := host.now (← get)
      return ⟨sc.testId v, outcome, ⟨now - host.now started⟩⟩ : Act σ RunReport).Ends s₃ :=
    (hlook s₃).bind fun _ _ _ ↦ Act.ends_pure _ _
  dsimp only
  split
  · exact (Act.ends_pure _ _).bind fun outcome s₃ _ ↦ hreport outcome s₃
  · rw [map_eq_pure_bind]
    refine Act.Ends.bind ?_ fun outcome s₃ _ ↦ hreport outcome s₃
    exact (execute_ends hr ht hx hp s₂).bind fun _ _ _ ↦ Act.ends_pure _ _

theorem runPlan_ends (hr : host.Reliable child) (ht : host.Timely) (hx : host.CommandsEnd)
    (hp : 0 < w.launcher.timeouts.pollInterval.nanos) (s : σ) : (w.runPlan host plan).Ends s := by
  induction plan generalizing s with
  | nil => exact Act.ends_pure _ _
  | cons p plan ih =>
    obtain ⟨sc, v⟩ := p
    refine Act.Ends.bind (Act.ends_of_run (Act.run_get s) nofun) fun t s₁ _ ↦ ?_
    split
    · exact Act.ends_pure _ _
    · refine (runOne_ends hr ht hx hp sc v s₁).bind fun run s₂ _ ↦ ?_
      refine (Act.ends_tell _ _).bind fun _ s₃ _ ↦ ?_
      exact (ih s₃).bind fun _ _ _ ↦ Act.ends_pure _ _

/-- The report of a sweep accounts for its plan, whatever the runs come to and whenever the sweep is
asked to stop. The runs that are made are the first of the plan; they end at the first look that
finds the request, and without such a look the whole plan is run. On a reliable machine the sweep
comes to its end. -/
theorem runAll_accounts (host : SweepHost σ) (w : Sweep) (scenarios : List Scenario) (s : σ) :
    (∀ report s', (w.runAll host scenarios).run s = (.ok report, s') ↔
      ∃ made left, w.plan scenarios = made ++ left ∧ Made host w made s report.runs s' ∧
        report.notRun = left.length ∧ (left ≠ [] → host.isInterrupted s' = true)) ∧
    (∀ report s', (w.runAll host scenarios).run s = (.ok report, s') →
      report.Accounts (w.plan scenarios)) ∧
    ∀ child, host.Reliable child → host.Timely → host.CommandsEnd →
      0 < w.launcher.timeouts.pollInterval.nanos → (w.runAll host scenarios).Ends s := by
  refine ⟨fun report s' ↦ runPlan_eq_ok_iff, fun report s' h ↦ ?_,
    fun child hr ht hx hp ↦ runPlan_ends hr ht hx hp s⟩
  obtain ⟨made, left, hplan, hm, hleft, -⟩ := runPlan_eq_ok_iff.mp h
  rw [hplan]
  exact Report.accounts_of_made hm hleft

end Sweep

/-- A ward on which the sweep is asked to stop as soon as a process has ended. -/
def Ward.impatientHost (machine : ServiceHost Ward) : SweepHost Ward :=
  { sweepHost machine with isInterrupted := fun w ↦ w.ended.isSome }

/-- A request that comes during the first of two runs lets that run come to its end. -/
theorem impatient_sweep_accounts :
    ∃ report s', (Sweep.ward.runAll (Ward.impatientHost Ward.obedient)
        [Scenario.nothing, Scenario.nothing]).run { mounted := false } = (.ok report, s') ∧
      report.Accounts (Sweep.ward.plan [Scenario.nothing, Scenario.nothing]) ∧
      report.runs.length = 1 ∧ report.notRun = 1 ∧
      (Ward.impatientHost Ward.obedient).isInterrupted s' = true ∧
      (Sweep.ward.runAll (Ward.impatientHost Ward.obedient)
        [Scenario.nothing, Scenario.nothing]).Ends { mounted := false } := by
  obtain ⟨report, s', h, hone, hleft⟩ : ∃ report s',
      (Sweep.ward.runAll (Ward.impatientHost Ward.obedient)
        [Scenario.nothing, Scenario.nothing]).run { mounted := false } = (.ok report, s') ∧
      report.runs.length = 1 ∧ report.notRun = 1 :=
    ⟨_, _, rfl, rfl, rfl⟩
  obtain ⟨hiff, hacc, hends⟩ := Sweep.runAll_accounts (Ward.impatientHost Ward.obedient) Sweep.ward
    [Scenario.nothing, Scenario.nothing] { mounted := false }
  obtain ⟨made, left, -, -, hlen, hstop⟩ := (hiff report s').mp h
  refine ⟨report, s', h, hacc report s' h, hone, hleft, hstop ?_, ?_⟩
  · rintro rfl
    rw [hleft] at hlen
    cases hlen
  · have hr : (Ward.impatientHost Ward.obedient).Reliable fun _ _ ↦ True :=
      { Ward.host_reliable _ _ _ with resumed := fun _ ↦ trivial }
    exact hends _ hr (Ward.host_timely _ _ _) (Ward.host_commandsEnd fun _ ↦ nofun) (by decide)

end MountSweep
