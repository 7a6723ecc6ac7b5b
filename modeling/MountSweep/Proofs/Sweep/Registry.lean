import MountSweep.Proofs.Sweep.Accounting
import MountSweep.Proofs.Sweep.Plan

namespace MountSweep

open Posix Time Output Scenario

def Output.Surveillance.after (rules : Surveillance) (calls : List RegistryCall) : Surveillance :=
  calls.foldl (fun rules call ↦ (rules.call call).2) rules

theorem Output.Surveillance.after_append (rules : Surveillance) (cs ds : List RegistryCall) :
    rules.after (cs ++ ds) = (rules.after cs).after ds :=
  List.foldl_append

namespace Scenario.Check

variable {α β : Type}

theorem run_bind (c : Check α) (f : α → Check β) (space : Workspace) :
    (c >>= f).run space =
      match c.run space with
      | (.ok x, space') => (f x).run space'
      | (.error e, space') => (.error e, space') := by
  unfold run
  rw [ExceptT.run_bind, StateT.run_bind]
  cases StateT.run (ExceptT.run c) space with
  | mk r space' => cases r <;> rfl

theorem run_tryCatch (c : Check α) (f : ScenarioFailure → Check α) (space : Workspace) :
    (tryCatch c f).run space =
      match c.run space with
      | (.ok x, space') => (.ok x, space')
      | (.error e, space') => (f e).run space' := by
  unfold run
  rw [ExceptT.run_tryCatch, StateT.run_bind]
  cases StateT.run (ExceptT.run c) space with
  | mk r space' => cases r <;> rfl

/-- In a workspace a check makes some calls on the registry, one after another, until it returns or
stops. Nothing else that it does changes the registry. -/
inductive Calls : {α : Type} → Check α → Workspace → List RegistryCall →
    Except ScenarioFailure α → Workspace → Prop
  | quiet {α : Type} {c : Check α} {space space' : Workspace} {r : Except ScenarioFailure α}
      (hr : c.run space = (r, space')) (hq : space'.surveillance = space.surveillance) :
      Calls c space [] r space'
  | call (c : RegistryCall) (space : Workspace) :
      Calls (call c) space [c] (.ok (space.surveillance.call c).1)
        { space with surveillance := (space.surveillance.call c).2 }
  | bind {α β : Type} {c : Check α} {f : α → Check β} {space space₁ space₂ : Workspace} {x : α}
      {cs ds : List RegistryCall} {r : Except ScenarioFailure β}
      (hc : Calls c space cs (.ok x) space₁) (hf : Calls (f x) space₁ ds r space₂) :
      Calls (c >>= f) space (cs ++ ds) r space₂
  | stopped {α β : Type} {c : Check α} {f : α → Check β} {space space₁ : Workspace}
      {e : ScenarioFailure} {cs : List RegistryCall} (hc : Calls c space cs (.error e) space₁) :
      Calls (c >>= f) space cs (.error e) space₁
  | caught {α : Type} {c : Check α} {f : ScenarioFailure → Check α}
      {space space₁ space₂ : Workspace} {e : ScenarioFailure} {cs ds : List RegistryCall}
      {r : Except ScenarioFailure α} (hc : Calls c space cs (.error e) space₁)
      (hf : Calls (f e) space₁ ds r space₂) : Calls (tryCatch c f) space (cs ++ ds) r space₂
  | uncaught {α : Type} {c : Check α} {f : ScenarioFailure → Check α}
      {space space₁ : Workspace} {x : α} {cs : List RegistryCall}
      (hc : Calls c space cs (.ok x) space₁) : Calls (tryCatch c f) space cs (.ok x) space₁

namespace Calls

variable {c : Check α} {space space' : Workspace} {cs : List RegistryCall}
  {r : Except ScenarioFailure α}

theorem run_eq (h : Calls c space cs r space') : c.run space = (r, space') := by
  induction h with
  | quiet hr hq => exact hr
  | call c space => rfl
  | bind hc hf ihc ihf =>
    rw [run_bind, ihc]
    exact ihf
  | stopped hc ihc => rw [run_bind, ihc]
  | caught hc hf ihc ihf =>
    rw [run_tryCatch, ihc]
    exact ihf
  | uncaught hc ihc => rw [run_tryCatch, ihc]

/-- The calls that a check makes are all that happens to the registry, also if it stops midway. -/
theorem surveillance_eq (h : Calls c space cs r space') :
    space'.surveillance = space.surveillance.after cs := by
  induction h with
  | quiet hr hq => exact hq
  | call c space => rfl
  | bind hc hf ihc ihf | caught hc hf ihc ihf => rw [ihf, ihc, Surveillance.after_append]
  | stopped hc ihc | uncaught hc ihc => exact ihc

end Calls

end Scenario.Check

def Scenario.Body.Consults (body : Body) : Prop :=
  ∀ ctx space, ∃ cs r space', Check.Calls (body ctx) space cs r space'

variable {σ : Type}

/-- How the output `c` of a run in directories that exist is judged: the registry holds the
configured rules when the body starts, `cs` are the calls of the body, and the registry that they
leave gives the verdict. A service that does not start leaves the configured rules. -/
inductive Sweep.Judged (host : SweepHost σ) (w : Sweep) (sc : Scenario) (v : Variant)
    (dirs : ServiceDirs) (s : σ) :
    Course → List RegistryCall → Captured → Except SuspiciousOutput Unit → Prop
  | unstarted {e : Error} {c : Captured} {s₁ s₂ : σ}
      (hs : (w.launcher.start host.toServiceHost v dirs).run (host.openCapture s) =
        (.ok (.error e), s₁))
      (hd : host.drain w.launcher.timeouts.outputDrain s₁ = (c, s₂)) :
      Judged host w sc v dirs s (.unstarted e) [] c (Surveillance.classify ⟨w.rules⟩ c)
  | performed {h : ServiceHandle} {cs : List RegistryCall} {r : Except ScenarioFailure Unit}
      {space : Workspace} {course : Course} {c : Captured} {s₁ s₂ s₃ : σ}
      (hs : (w.launcher.start host.toServiceHost v dirs).run (host.openCapture s) =
        (.ok (.ok h), s₁))
      (hb : (sc.body (w.context host h)).Calls
        { host.workspace s₁ with surveillance := ⟨w.rules⟩ } cs r space)
      (ht : (Sweep.tearDown host w.launcher.timeouts.failureGrace h r).run (host.resume space s₁) =
        (.ok course.errors, s₂))
      (hd : host.drain w.launcher.timeouts.outputDrain s₂ = (c, s₃)) :
      Judged host w sc v dirs s course cs c (space.surveillance.classify c)

/-- What a run comes to that begins in state `s`: its output is judged, unless there is none because
it was left to the superuser or its directories could not be made. -/
inductive Sweep.ComesTo (host : SweepHost σ) (w : Sweep) (sc : Scenario) (v : Variant) (s : σ) :
    Outcome → Prop
  | unprivileged (hr : sc.requiresRoot = true) (hs : host.isRoot s = false) :
      ComesTo host w sc v s (.skipped "Root required")
  | unplaced {e : SystemError} {s₁ : σ} (hm : host.makeTemporary runStem s = (.error e, s₁)) :
      ComesTo host w sc v s (.ofErrors [.io e])
  | unfurnished {root : Path} {e : SystemError} {files : FileSystem} {s₁ : σ}
      (hm : host.makeTemporary runStem s = (.ok root, s₁))
      (hd : ServiceDirs.createIn root (host.files s₁) = (.error e, files)) :
      ComesTo host w sc v s (.ofErrors [.io e])
  | judged {root : Path} {dirs : ServiceDirs} {files : FileSystem} {s₁ : σ} {course : Course}
      {cs : List RegistryCall} {c : Captured} {verdict : Except SuspiciousOutput Unit}
      (hm : host.makeTemporary runStem s = (.ok root, s₁))
      (hd : ServiceDirs.createIn root (host.files s₁) = (.ok dirs, files))
      (hj : Judged host w sc v dirs (host.setFiles files s₁) course cs c verdict) :
      ComesTo host w sc v s (.ofErrors (course.errors ++ suspicions verdict))

namespace Sweep

variable {host : SweepHost σ} {w : Sweep} {sc : Scenario} {v : Variant} {dirs : ServiceDirs}
  {s s' : σ}

/-- A sweep that is ready has the configured rules, in the order of the configuration. -/
theorem rules_of_prepare {c : Config} (h : (prepare host c).run s = (.ok (.ok w), s')) :
    List.Forall₂ (fun spec rule ↦ Rule.ofSpec? spec = .ok rule) c.falsePositives w.rules := by
  obtain ⟨w₀, path, hw, rfl⟩ := ofConfig?_of_prepare h
  obtain ⟨-, hrules, -⟩ := ofConfig?_eq_ok hw
  exact mapM_eq_ok_iff.mp hrules

/-- A verdict depends on the configured rules, the calls of the body and the output alone. -/
theorem Judged.verdict_eq {course : Course} {cs : List RegistryCall} {c : Captured}
    {verdict : Except SuspiciousOutput Unit}
    (hj : Judged host w sc v dirs s course cs c verdict) :
    verdict = (Surveillance.after ⟨w.rules⟩ cs).classify c := by
  cases hj with
  | unstarted hs hd => rfl
  | performed hs hb ht hd => rw [hb.surveillance_eq]

theorem executeIn_judged (hb : sc.body.Consults) {errors : List Error}
    (hr : (w.executeIn host sc v dirs).run s = (.ok errors, s')) :
    ∃ course cs c verdict, Judged host w sc v dirs s course cs c verdict ∧
      errors = course.errors ++ suspicions verdict := by
  obtain ⟨course, verdict, es, hw, rfl⟩ := executeIn_eq_ok_iff.mp hr
  have hstart := ServiceLauncher.start_mirrors host.toServiceHost w.launcher v dirs
  obtain ⟨hc, hfits, hd⟩ := hw
  cases hc with
  | unstarted hs => exact ⟨_, _, _, _, .unstarted (hstart.run_eq hs) hd, rfl⟩
  | @stopped h h' space verdict ss ts s₁ s₂ hs hbody ht =>
    obtain ⟨cs, r, space', hcalls⟩ := hb (w.context host h)
      { host.workspace s₁ with surveillance := ⟨w.rules⟩ }
    rw [hcalls.run_eq] at hbody
    cases hbody
    have ht := (tearDown_mirrors host w.launcher.timeouts.failureGrace h (.ok ())).run_eq
      (tearDown_stops ht)
    exact ⟨_, _, _, _, .performed (hstart.run_eq hs) hcalls ht hd, rfl⟩
  | @forced h h' space f ss ts s₁ s₂ hs hbody ht =>
    obtain ⟨cs, r, space', hcalls⟩ := hb (w.context host h)
      { host.workspace s₁ with surveillance := ⟨w.rules⟩ }
    rw [hcalls.run_eq] at hbody
    cases hbody
    have ht := (tearDown_mirrors host w.launcher.timeouts.failureGrace h (.error f)).run_eq
      (tearDown_forces ht)
    exact ⟨_, _, _, _, .performed (hstart.run_eq hs) hcalls ht hd, rfl⟩

theorem execute_comesTo (hb : sc.body.Consults) {errors : List Error}
    (hr : (w.execute host sc v).run s = (.ok errors, s')) :
    ComesTo host w sc v s (.ofErrors errors) := by
  rcases hm : host.makeTemporary runStem s with ⟨made, s₁⟩
  cases made with
  | error e =>
    rw [execute, Act.run_bind, Act.run_ask, hm] at hr
    cases hr
    exact .unplaced hm
  | ok root =>
    rcases hd : ServiceDirs.createIn root (host.files s₁) with ⟨created, files⟩
    cases created with
    | error e =>
      rw [execute_placed hm hd] at hr
      cases hr
      exact .unfurnished hm hd
    | ok dirs =>
      rw [execute_run hm hd] at hr
      obtain ⟨s₂, hin, -⟩ := (Act.run_lastly_eq_iff (by simp)).mp hr
      obtain ⟨course, cs, c, verdict, hj, rfl⟩ := executeIn_judged hb hin
      exact .judged hm hd hj

theorem runOne_comesTo (hb : sc.body.Consults) {run : RunReport}
    (hr : (w.runOne host sc v).run s = (.ok run, s')) : ComesTo host w sc v s run.outcome := by
  by_cases hroot : sc.requiresRoot = true → host.isRoot s = true
  · obtain ⟨errors, he, rfl⟩ := (runOne_eq_ok_iff hroot).mp hr
    exact execute_comesTo hb he
  · have hskip : (sc.requiresRoot && !host.isRoot s) = true := by simpa using hroot
    obtain ⟨_, _, hget, hr⟩ := Act.run_bind_eq_ok.mp hr
    cases hget
    obtain ⟨_, _, hget, hr⟩ := Act.run_bind_eq_ok.mp hr
    cases hget
    rw [if_pos hskip] at hr
    obtain ⟨outcome, _, hpure, hr⟩ := Act.run_bind_eq_ok.mp hr
    cases hpure
    cases hr
    rw [Bool.and_eq_true, Bool.not_eq_true'] at hskip
    exact .unprivileged hskip.1 hskip.2

theorem Made.forall₂_runOne {plan : List (Scenario × Variant)} {runs : List RunReport}
    (hm : Made host w plan s runs s') :
    List.Forall₂ (fun p run ↦ ∃ s₀ s₁, (w.runOne host p.1 p.2).run s₀ = (.ok run, s₁)) plan
      runs := by
  induction hm with
  | nil s => exact .nil
  | cons hi hr hm ih => exact .cons ⟨_, _, hr⟩ ih

/-- Every run of a sweep is judged by the configured rules and the calls of its own body. -/
theorem runAll_comesTo {scenarios : List Scenario} {report : Report}
    (hb : ∀ sc ∈ scenarios, sc.body.Consults)
    (h : (w.runAll host scenarios).run s = (.ok report, s')) :
    List.Forall₂ (fun p run ↦ ∃ s₀ s₁, (w.runOne host p.1 p.2).run s₀ = (.ok run, s₁) ∧
      ComesTo host w p.1 p.2 s₀ run.outcome) ((w.plan scenarios).take report.runs.length)
        report.runs := by
  obtain ⟨made, left, hplan, hm, -, -⟩ := runPlan_eq_ok_iff.mp h
  have hmade : ∀ p ∈ made, p.1.body.Consults := by
    intro p hp
    have hmem : p ∈ w.plan scenarios := hplan ▸ List.mem_append_left left hp
    exact hb p.1 (mem_scenarios_of_mem_plan hmem)
  rw [hplan, hm.length_eq, List.take_left]
  refine ((List.forall₂_and_left _ _).mpr ⟨hmade, hm.forall₂_runOne⟩).imp ?_
  rintro ⟨sc, v⟩ run ⟨hconsults, s₀, s₁, hr⟩
  exact ⟨s₀, s₁, hr, runOne_comesTo hconsults hr⟩

end Sweep

end MountSweep
