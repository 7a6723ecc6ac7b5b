import MountSweep.Proofs.Service.Simulation
import MountSweep.Proofs.Sweep.Registry

namespace MountSweep

open Posix Time Output Scenario Act

/-- Two workspaces with the same in them, registries aside. -/
structure Scenario.Workspace.SameButRules (space space' : Workspace) : Prop where
  files : space.files = space'.files
  names : space.names = space'.names
  interrupted : space.interrupted = space'.interrupted

/-- Two scenarios that differ only in what their bodies do to the registries of their runs. -/
structure Scenario.SameButRules (sc sc' : Scenario) : Prop where
  name : sc.name = sc'.name
  nameMap : sc.nameMap = sc'.nameMap
  requiresRoot : sc.requiresRoot = sc'.requiresRoot
  result (ctx : Context) (space : Workspace) :
    ((sc.body ctx).run space).1 = ((sc'.body ctx).run space).1
  space (ctx : Context) (space : Workspace) :
    ((sc.body ctx).run space).2.SameButRules ((sc'.body ctx).run space).2

theorem Scenario.SameButRules.refl (sc : Scenario) : sc.SameButRules sc :=
  ⟨rfl, rfl, rfl, fun _ _ ↦ rfl, fun _ _ ↦ ⟨rfl, rfl, rfl⟩⟩

variable {σ : Type} {R : σ → σ → Prop}

/-- Related states answer a sweep alike and stay related, whatever lines are printed and whatever is
registered. -/
structure SweepHost.Respects (host : SweepHost σ) (R : σ → σ → Prop) : Prop
    extends ServiceHost.Matches host.toServiceHost host.toServiceHost R where
  privileged {s t : σ} : R s t → host.isRoot s = host.isRoot t
  interrupted {s t : σ} : R s t → host.isInterrupted s = host.isInterrupted t
  workspace {s t : σ} : R s t → host.workspace s = host.workspace t
  resumed {space space' : Workspace} {s t : σ} : space.SameButRules space' → R s t →
    R (host.resume space s) (host.resume space' t)
  placed (stem : String) {s t : σ} : R s t →
    (host.makeTemporary stem s).1 = (host.makeTemporary stem t).1 ∧
      R (host.makeTemporary stem s).2 (host.makeTemporary stem t).2
  removed (p : Path) {s t : σ} : R s t → R (host.removeTemporary p s) (host.removeTemporary p t)
  opened {s t : σ} : R s t → R (host.openCapture s) (host.openCapture t)
  drained (d : Span) {s t : σ} : R s t →
    (host.drain d s).1 = (host.drain d t).1 ∧ R (host.drain d s).2 (host.drain d t).2
  emitted (c : Captured) {s t : σ} : R s t → R (host.emit c s) (host.emit c t)
  printed (line line' : String) {s t : σ} : R s t →
    R (host.printLine line s) (host.printLine line' t)

/-- Equal states are respected by a machine that keeps neither registries nor printed lines. -/
theorem SweepHost.respects_eq {host : SweepHost σ}
    (hresume : ∀ space space' s, space.SameButRules space' →
      host.resume space s = host.resume space' s)
    (hprint : ∀ line line' s, host.printLine line s = host.printLine line' s) :
    host.Respects Eq where
  toMatches := host.toServiceHost.matches_self
  privileged := congrArg _
  interrupted := congrArg _
  workspace := congrArg _
  resumed {space space' s t} hspace h := h ▸ hresume space space' s hspace
  placed stem {s t} h := by simp [h]
  removed _ := congrArg _
  opened := congrArg _
  drained d {s t} h := by simp [h]
  emitted _ := congrArg _
  printed line line' {s t} h := h ▸ hprint line line' s

/-- Two reports on plans that differ in some places agree on all other runs. -/
structure Report.AgreesOff (plan plan' : List (Scenario × Variant)) (report report' : Report) :
    Prop where
  notRun : report.notRun = report'.notRun
  length : report.runs.length = report'.runs.length
  runs (j : ℕ) : plan[j]? = plan'[j]? → report.runs[j]? = report'.runs[j]?

namespace Sweep

variable {host : SweepHost σ} {w : Sweep} {sc sc' : Scenario} {v : Variant} {dirs : ServiceDirs}

theorem conclude_alike (hR : host.Respects R) (d : Span) {rules rules' : Surveillance} {same : Prop}
    (h : same → rules = rules') :
    Alike R (fun errors errors' ↦ same → errors = errors') (conclude host d rules)
      (conclude host d rules') := by
  refine .get_bind fun s t hst ↦ ?_
  rw [hR.now hst]
  split
  · exact .stick _
  · refine (Alike.ask fun s t ↦ hR.drained d).bind_eq fun c ↦ ?_
    refine (Alike.tell fun s t ↦ hR.emitted c).bind_eq fun _ ↦ ?_
    by_cases hsame : same
    · rw [h hsame]
      cases rules'.classify c <;> exact .pure fun _ ↦ rfl
    · cases rules.classify c <;> cases rules'.classify c <;> exact .pure fun hs ↦ absurd hs hsame

theorem tearDown_alike (hR : host.Respects R) (grace : Span) (h : ServiceHandle)
    (r : Except ScenarioFailure Unit) :
    Alike R Eq (tearDown host grace h r) (tearDown host grace h r) := by
  cases r with
  | ok u =>
    refine (ServiceHandle.stop_alike hR.toTracks h).bind_eq fun x ↦ ?_
    obtain ⟨e | u, h'⟩ := x <;> exact .pure rfl
  | error f =>
    refine (Alike.tell fun s t ↦ hR.slept grace).bind_eq fun _ ↦ ?_
    exact (ServiceHandle.cleanup_alike hR.toTracks h).bind_eq fun _ ↦ .pure rfl

theorem perform_alike (hR : host.Respects R) (hsc : sc.SameButRules sc') (ctx : Context)
    (rules : Surveillance) :
    Alike R (fun x y ↦ x.1 = y.1 ∧ (sc = sc' → x.2 = y.2)) (perform host sc.body ctx rules)
      (perform host sc'.body ctx rules) := by
  refine .ask fun s t hst ↦ ?_
  rw [hR.workspace hst]
  refine ⟨⟨hsc.result ctx _, ?_⟩, hR.resumed (hsc.space ctx _) hst⟩
  rintro rfl
  rfl

theorem executeIn_alike (hR : host.Respects R) (hsc : sc.SameButRules sc') :
    Alike R (fun errors errors' ↦ sc = sc' → errors = errors') (w.executeIn host sc v dirs)
      (w.executeIn host sc' v dirs) := by
  refine (Alike.tell fun s t ↦ hR.opened).bind_eq fun _ ↦ ?_
  refine (ServiceLauncher.start_alike hR.toMatches _ v dirs).bind_eq fun r ↦ ?_
  cases r with
  | error e =>
    refine (conclude_alike hR _ fun _ : sc = sc' ↦ rfl).bind fun errors errors' herr ↦ ?_
    exact .pure fun hsame ↦ by rw [herr hsame]
  | ok h =>
    refine (perform_alike hR hsc _ _).bind fun x y hxy ↦ ?_
    obtain ⟨result, rules⟩ := x
    obtain ⟨result', rules'⟩ := y
    obtain ⟨rfl, hrules⟩ := hxy
    refine (tearDown_alike hR _ h result).bind_eq fun torn ↦ ?_
    refine (conclude_alike hR _ hrules).bind fun errors errors' herr ↦ ?_
    exact .pure fun hsame ↦ by rw [herr hsame]

theorem execute_alike (hR : host.Respects R) (hsc : sc.SameButRules sc') :
    Alike R (fun errors errors' ↦ sc = sc' → errors = errors') (w.execute host sc v)
      (w.execute host sc' v) := by
  refine (Alike.ask fun s t ↦ hR.placed runStem).bind_eq fun made ↦ ?_
  cases made with
  | error e => exact .pure fun _ ↦ rfl
  | ok root =>
    refine Alike.lastly ?_ fun s t ↦ hR.removed root
    refine Alike.bind_eq (.ask fun s t hst ↦ ?_) fun created ↦ ?_
    · rw [hR.files hst]
      exact ⟨rfl, hR.changed _ hst⟩
    cases created with
    | error e => exact .pure fun _ ↦ rfl
    | ok dirs => exact executeIn_alike hR hsc

theorem runOne_alike (hR : host.Respects R) (hsc : sc.SameButRules sc') :
    Alike R (fun run run' ↦ sc = sc' → run = run') (w.runOne host sc v) (w.runOne host sc' v) := by
  refine .get_bind fun s t hst ↦ .get_bind fun s₁ t₁ hst₁ ↦ ?_
  rw [hR.now hst, hR.privileged hst₁, hsc.requiresRoot]
  have hreport {outcome outcome' : Outcome} (h : sc = sc' → outcome = outcome') :
      Alike R (fun run run' ↦ sc = sc' → run = run')
        (do
          let now := host.now (← get)
          return (⟨sc.testId v, outcome, ⟨now - host.now t⟩⟩ : RunReport))
        (do
          let now := host.now (← get)
          return (⟨sc'.testId v, outcome', ⟨now - host.now t⟩⟩ : RunReport)) := by
    refine .get_bind fun s₂ t₂ hst₂ ↦ .pure fun hsame ↦ ?_
    rw [hR.now hst₂, h hsame, hsame]
  dsimp only
  split
  · exact (Alike.pure rfl).bind_eq fun outcome ↦ hreport fun _ ↦ rfl
  · rw [map_eq_pure_bind, map_eq_pure_bind]
    refine Alike.bind ?_ fun outcome outcome' ↦ hreport
    exact (execute_alike hR hsc).bind fun errors errors' herr ↦ .pure fun hsame ↦ by rw [herr hsame]

theorem plan_alike (w : Sweep) {scenarios scenarios' : List Scenario}
    (h : List.Forall₂ Scenario.SameButRules scenarios scenarios') :
    List.Forall₂ (fun p q ↦ p.1.SameButRules q.1 ∧ p.2 = q.2) (w.plan scenarios)
      (w.plan scenarios') := by
  induction h with
  | nil => exact .nil
  | @cons sc sc' rest rest' hsc hrest ih =>
    have hmatrix : w.matrixOf sc = w.matrixOf sc' := by rw [matrixOf, matrixOf, hsc.nameMap]
    rw [plan, plan, List.flatMap_cons, List.flatMap_cons, hmatrix]
    refine List.rel_append ?_ ih
    rw [List.forall₂_map_left_iff, List.forall₂_map_right_iff, List.forall₂_same]
    exact fun v _ ↦ ⟨hsc, rfl⟩

/-- Of two plans that differ only in what bodies do to the registries of their runs, all runs are
the same that are planned alike. -/
theorem runPlan_alike (hR : host.Respects R) {plan plan' : List (Scenario × Variant)}
    (h : List.Forall₂ (fun p q ↦ p.1.SameButRules q.1 ∧ p.2 = q.2) plan plan') :
    Alike R (Report.AgreesOff plan plan') (w.runPlan host plan) (w.runPlan host plan') := by
  induction h with
  | nil => exact .pure ⟨rfl, rfl, fun _ _ ↦ rfl⟩
  | @cons p q plan plan' hpq hrest ih =>
    obtain ⟨sc, v⟩ := p
    obtain ⟨sc', v'⟩ := q
    obtain ⟨hsc, rfl⟩ := hpq
    refine .get_bind fun s t hst ↦ ?_
    rw [hR.interrupted hst]
    split
    · exact .pure ⟨by rw [hrest.length_eq], rfl, fun _ _ ↦ rfl⟩
    refine (runOne_alike hR hsc).bind fun run run' hrun ↦ ?_
    refine (Alike.tell fun s t ↦ hR.printed run.display run'.display).bind_eq fun _ ↦ ?_
    refine ih.bind fun report report' hreport ↦ .pure ?_
    refine ⟨hreport.notRun, congrArg Nat.succ hreport.length, fun j hj ↦ ?_⟩
    cases j with
    | zero =>
      have hpair : (sc, v) = (sc', v) := Option.some.inj hj
      exact congrArg some (hrun (Prod.mk.inj hpair).1)
    | succ j => exact hreport.runs j hj

/-- Rules do not get from one run into another. A run starts with the configured rules, in their
order, and its output is judged by these with the calls of its own body, whether that returned or
panicked. So two runs on any machines have the same verdict if the rules, the calls and the output
are the same; and in two sweeps that differ only in what some bodies register, all other runs are
the same. -/
theorem rules_stay_with_run (host : SweepHost σ) (w : Sweep) :
    (∀ (c : Config) (s s' : σ), (prepare host c).run s = (.ok (.ok w), s') →
      List.Forall₂ (fun spec rule ↦ Rule.ofSpec? spec = .ok rule) c.falsePositives w.rules) ∧
    (∀ (scenarios : List Scenario) (s : σ) (report : Report) (s' : σ),
      (∀ sc ∈ scenarios, sc.body.Consults) →
      (w.runAll host scenarios).run s = (.ok report, s') →
      List.Forall₂ (fun p run ↦ ∃ s₀ s₁, (w.runOne host p.1 p.2).run s₀ = (.ok run, s₁) ∧
        ComesTo host w p.1 p.2 s₀ run.outcome) ((w.plan scenarios).take report.runs.length)
          report.runs) ∧
    (∀ sc v dirs s course cs c verdict, Judged host w sc v dirs s course cs c verdict →
      verdict = (Surveillance.after ⟨w.rules⟩ cs).classify c ∧
      ∀ {τ : Type} (host' : SweepHost τ) (w' : Sweep) sc' v' dirs' t course' verdict',
        w'.rules = w.rules → Judged host' w' sc' v' dirs' t course' cs c verdict' →
          verdict' = verdict) ∧
    ∀ (R : σ → σ → Prop) (s t : σ) (plan plan' : List (Scenario × Variant)),
      host.Respects R → R s t →
      List.Forall₂ (fun p q ↦ p.1.SameButRules q.1 ∧ p.2 = q.2) plan plan' →
      Answers (Report.AgreesOff plan plan') ((w.runPlan host plan).run s).1
        ((w.runPlan host plan').run t).1 := by
  refine ⟨fun c s s' h ↦ rules_of_prepare h, fun scenarios s report s' ↦ runAll_comesTo, ?_,
    fun R s t plan plan' hR hst h ↦ (runPlan_alike hR h s t hst).1⟩
  intro sc v dirs s course cs c verdict hj
  refine ⟨hj.verdict_eq, ?_⟩
  intro τ host' w' sc' v' dirs' t course' verdict' hrules hj'
  rw [hj'.verdict_eq, hj.verdict_eq, hrules]

end Sweep

def Ward.noise : Captured := { stderr := Bytes.ofString "benign error" }

def Ward.noisyHost : SweepHost Ward := { sweepHost obedient with drain := fun _ w ↦ (noise, w) }

theorem Ward.noisyHost_respects : noisyHost.Respects Eq := by
  refine SweepHost.respects_eq (fun space space' s h ↦ ?_) fun _ _ _ ↦ rfl
  simp only [noisyHost, sweepHost, h.files]

/-- A scenario that makes some calls on its registry and then returns or stops. -/
def Scenario.registering (calls : List RegistryCall) (r : Except ScenarioFailure Unit) :
    Scenario where
  name := "registering"
  body _ := do
    calls.forM fun call ↦ do
      let _ ← Check.call call
    match r with
    | .ok () => return ()
    | .error f => Check.fail f

namespace Scenario

variable {calls calls' : List RegistryCall} {r : Except ScenarioFailure Unit}

theorem calls_forM (calls : List RegistryCall) (space : Workspace) :
    Check.Calls (calls.forM fun call ↦ do let _ ← Check.call call) space calls (.ok ())
      { space with surveillance := space.surveillance.after calls } := by
  induction calls generalizing space with
  | nil => exact .quiet rfl rfl
  | cons call calls ih =>
    have hcall : Check.Calls (do let _ ← Check.call call) space [call] (.ok ())
        { space with surveillance := (space.surveillance.call call).2 } :=
      .bind (.call call space) (.quiet rfl rfl)
    exact Check.Calls.bind (f := fun _ ↦ calls.forM _) hcall (ih _)

theorem registering_calls (calls : List RegistryCall) (r : Except ScenarioFailure Unit)
    (ctx : Context) (space : Workspace) :
    Check.Calls ((registering calls r).body ctx) space calls r
      { space with surveillance := space.surveillance.after calls } := by
  have hend : Check.Calls (match r with | .ok () => pure () | .error f => Check.fail f)
      { space with surveillance := space.surveillance.after calls } [] r
      { space with surveillance := space.surveillance.after calls } := by
    rcases r with f | u <;> exact .quiet rfl rfl
  have h := Check.Calls.bind (calls_forM calls space) (f := fun _ ↦ _) hend
  rwa [List.append_nil] at h

theorem registering_sameButRules : (registering calls r).SameButRules (registering calls' r) where
  name := rfl
  nameMap := rfl
  requiresRoot := rfl
  result ctx space := by
    rw [(registering_calls calls r ctx space).run_eq, (registering_calls calls' r ctx space).run_eq]
  space ctx space := by
    rw [(registering_calls calls r ctx space).run_eq, (registering_calls calls' r ctx space).run_eq]
    exact ⟨rfl, rfl, rfl⟩

end Scenario

theorem Scenario.registering_consults (calls : List RegistryCall)
    (r : Except ScenarioFailure Unit) : (registering calls r).body.Consults :=
  fun ctx space ↦ ⟨calls, r, _, registering_calls calls r ctx space⟩

theorem Scenario.nothing_consults : nothing.body.Consults :=
  fun _ space ↦ ⟨[], .ok (), space, .quiet rfl rfl⟩

/-- A scenario that panics; with calls, it first declares the complaints of its service harmless. -/
def Scenario.panicking (calls : List RegistryCall) : Scenario :=
  registering calls (.error (.panicked "boom"))

def Output.RegistryCall.benign : RegistryCall := .registerLiteral "benign error" 0

theorem exists_run_of_toOption {α β : Type} {a : Act σ α} {f : α → β} {s : σ} {y : β}
    (h : (a.run s).1.toOption.map f = some y) : ∃ x s', a.run s = (.ok x, s') ∧ f x = y := by
  rcases ha : a.run s with ⟨why | x, s'⟩
  · rw [ha] at h
    cases h
  · rw [ha] at h
    exact ⟨x, s', rfl, Option.some.inj h⟩

/-- A rule that is registered before a panic counts for the run of the panic, and for no other. -/
theorem panicking_run_apart :
    (∃ w s', (Sweep.prepare Ward.noisyHost
        { Config.mapped with falsePositives := [{ pattern := "benign error" }] }).run
          Ward.furnished = (.ok (.ok w), s') ∧
      List.Forall₂ (fun spec rule ↦ Rule.ofSpec? spec = .ok rule) [{ pattern := "benign error" }]
        w.rules) ∧
    (∃ verdict, Sweep.Judged Ward.noisyHost Sweep.ward (Scenario.panicking [.benign]) ⟨[]⟩
        (.under (Bytes.ofString "/run")) { mounted := false } (.forced (.panicked "boom")) [.benign]
        Ward.noise verdict ∧
      verdict = (Surveillance.after ⟨[]⟩ [.benign]).classify Ward.noise) ∧
    ∃ report s' report' s'',
      (Sweep.ward.runAll Ward.noisyHost [Scenario.panicking [.benign], Scenario.nothing]).run
        { mounted := false } = (.ok report, s') ∧
      (Sweep.ward.runAll Ward.noisyHost [Scenario.panicking [], Scenario.nothing]).run
        { mounted := false } = (.ok report', s'') ∧
      List.Forall₂ (fun p run ↦ ∃ s₀ s₁,
          (Sweep.ward.runOne Ward.noisyHost p.1 p.2).run s₀ = (.ok run, s₁) ∧
          Sweep.ComesTo Ward.noisyHost Sweep.ward p.1 p.2 s₀ run.outcome)
        ((Sweep.ward.plan [Scenario.panicking [.benign], Scenario.nothing]).take
          report.runs.length) report.runs ∧
      report.runs[0]? ≠ report'.runs[0]? ∧ report.runs[1]? = report'.runs[1]? := by
  obtain ⟨-, hcomes, hjudged, hapart⟩ := Sweep.rules_stay_with_run Ward.noisyHost Sweep.ward
  refine ⟨?_, ?_, ?_⟩
  · obtain ⟨w, s', h⟩ : ∃ w s', (Sweep.prepare Ward.noisyHost
        { Config.mapped with falsePositives := [{ pattern := "benign error" }] }).run
          Ward.furnished = (.ok (.ok w), s') := Sweep.exists_of_prepare (by decide +kernel)
    exact ⟨w, s', h, (Sweep.rules_stay_with_run Ward.noisyHost w).1 _ _ _ h⟩
  · obtain ⟨h, s₁, s₂, hs, ht⟩ : ∃ h s₁ s₂,
        (Sweep.ward.launcher.start Ward.noisyHost.toServiceHost ⟨[]⟩
          (.under (Bytes.ofString "/run"))).run { mounted := false } = (.ok (.ok h), s₁) ∧
        (Sweep.tearDown Ward.noisyHost Sweep.ward.launcher.timeouts.failureGrace h
          (.error (.panicked "boom"))).run s₁ =
          (.ok (Course.forced (.panicked "boom")).errors, s₂) :=
      ⟨_, _, _, rfl, rfl⟩
    have hj : Sweep.Judged Ward.noisyHost Sweep.ward (Scenario.panicking [.benign]) ⟨[]⟩
        (.under (Bytes.ofString "/run")) { mounted := false } (.forced (.panicked "boom")) [.benign]
        Ward.noise _ := .performed hs (Scenario.registering_calls _ _ _ _) ht rfl
    exact ⟨_, hj, (hjudged _ _ _ _ _ _ _ _ hj).1⟩
  · obtain ⟨report, s', h, hout⟩ : ∃ report s',
        (Sweep.ward.runAll Ward.noisyHost [Scenario.panicking [.benign], Scenario.nothing]).run
          { mounted := false } = (.ok report, s') ∧ report.runs.map (·.outcome) =
        [.failed [.assertion (.panicked "boom")], .failed [.surveillance ⟨.stderr, "error"⟩]] :=
      exists_run_of_toOption (by decide +kernel)
    obtain ⟨report', s'', h', hout'⟩ : ∃ report' s'',
        (Sweep.ward.runAll Ward.noisyHost [Scenario.panicking [], Scenario.nothing]).run
          { mounted := false } = (.ok report', s'') ∧ report'.runs.map (·.outcome) =
        [.failed [.assertion (.panicked "boom"), .surveillance ⟨.stderr, "error"⟩],
          .failed [.surveillance ⟨.stderr, "error"⟩]] :=
      exists_run_of_toOption (by decide +kernel)
    have hconsults : ∀ sc ∈ [Scenario.panicking [.benign], Scenario.nothing],
        sc.body.Consults := by
      intro sc hsc
      rcases List.mem_cons.mp hsc with rfl | hsc
      · exact Scenario.registering_consults _ _
      · rw [List.mem_singleton.mp hsc]
        exact Scenario.nothing_consults
    have hsame : List.Forall₂ Scenario.SameButRules
        [Scenario.panicking [.benign], Scenario.nothing]
        [Scenario.panicking [], Scenario.nothing] :=
      .cons Scenario.registering_sameButRules (.cons (.refl Scenario.nothing) .nil)
    have hanswers := hapart Eq { mounted := false } { mounted := false } _ _
      Ward.noisyHost_respects rfl (Sweep.plan_alike Sweep.ward hsame)
    rw [← Sweep.runAll, ← Sweep.runAll, h, h'] at hanswers
    refine ⟨report, s', report', s'', h, h', hcomes _ _ _ _ hconsults h, ?_, ?_⟩
    · intro hfirst
      have houtcome := congrArg (Option.map (·.outcome)) hfirst
      rw [← List.getElem?_map, ← List.getElem?_map, hout, hout'] at houtcome
      simp at houtcome
    · cases hanswers with
      | ok hagrees => exact hagrees.runs 1 rfl

end MountSweep
