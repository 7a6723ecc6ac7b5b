import MountSweep.Proofs.Service.Overflow
import MountSweep.Sweep.Run

namespace MountSweep

open Posix Time Output Act

variable {σ : Type}

inductive Course
  | unstarted (e : Error)
  | stopped (verdict : Except TeardownError Unit)
  | forced (f : ScenarioFailure)

def Course.errors : Course → List Error
  | .unstarted e => [e]
  | .stopped (.ok ()) => []
  | .stopped (.error e) => [.teardown e]
  | .forced f => [.assertion f]

def suspicions : Except SuspiciousOutput Unit → List Error
  | .ok () => []
  | .error x => [.surveillance x]

def Course.body : Course → List Event
  | .unstarted _ => []
  | .stopped _ | .forced _ => [.resumed]

/-- A run in directories that exist, up to the end of its capture: its course, the rules that are
then in force, its requests, and the state in which it leaves the machine. -/
inductive Conduct (host : SweepHost σ) (w : Sweep) (s : Scenario) (v : Variant) (dirs : ServiceDirs)
    (s₀ : σ) : Course → Surveillance → List Event → σ → Prop
  | unstarted {e : Error} {ss : List Event} {s₁ : σ}
      (hs : Runs (w.launcher.start host.toServiceHost.recorded v dirs) (host.openCapture s₀) ss
        (.ok (.error e)) s₁) :
      Conduct host w s v dirs s₀ (.unstarted e) ⟨w.rules⟩ (.openedCapture :: ss) s₁
  | stopped {h h' : ServiceHandle} {space : Scenario.Workspace}
      {verdict : Except TeardownError Unit} {ss ts : List Event} {s₁ s₂ : σ}
      (hs : Runs (w.launcher.start host.toServiceHost.recorded v dirs) (host.openCapture s₀) ss
        (.ok (.ok h)) s₁)
      (hb : (s.body (w.context host h)).run { host.workspace s₁ with surveillance := ⟨w.rules⟩ } =
        (.ok (), space))
      (ht : Runs (h.stop host.toServiceHost.recorded) (host.resume space s₁) ts
        (.ok (verdict, h')) s₂) :
      Conduct host w s v dirs s₀ (.stopped verdict) space.surveillance
        (.openedCapture :: (ss ++ .resumed :: ts)) s₂
  | forced {h h' : ServiceHandle} {space : Scenario.Workspace} {f : ScenarioFailure}
      {ss ts : List Event} {s₁ s₂ : σ}
      (hs : Runs (w.launcher.start host.toServiceHost.recorded v dirs) (host.openCapture s₀) ss
        (.ok (.ok h)) s₁)
      (hb : (s.body (w.context host h)).run { host.workspace s₁ with surveillance := ⟨w.rules⟩ } =
        (.error f, space))
      (ht : Runs (h.cleanup host.toServiceHost.recorded)
        (host.sleep w.launcher.timeouts.failureGrace (host.resume space s₁)) ts (.ok h') s₂) :
      Conduct host w s v dirs s₀ (.forced f) space.surveillance
        (.openedCapture :: (ss ++ .resumed :: .slept w.launcher.timeouts.failureGrace :: ts)) s₂

/-- A run in directories that exist which comes to its end: its course, the verdict on its output,
its requests, and the state in which it leaves the machine. -/
inductive Window (host : SweepHost σ) (w : Sweep) (s : Scenario) (v : Variant) (dirs : ServiceDirs)
    (s₀ : σ) : Course → Except SuspiciousOutput Unit → List Event → σ → Prop
  | captured {course : Course} {rules : Surveillance} {es : List Event} {c : Captured} {s₁ s₂ : σ}
      (hc : Conduct host w s v dirs s₀ course rules es s₁)
      (hfits : host.now s₁ + w.launcher.timeouts.outputDrain.nanos < clockEnd)
      (hd : host.drain w.launcher.timeouts.outputDrain s₁ = (c, s₂)) :
      Window host w s v dirs s₀ course (rules.classify c)
        (es ++ [.drained w.launcher.timeouts.outputDrain c, .emitted c]) (host.emit c s₂)

/-- A run in directories that exist which the end of the clock cuts short: either the deadline for
the mount of a process that has been launched lies beyond it, and the process is given up, or the
deadline for the end of the capture does, and all is done but that. -/
inductive Overrun (host : SweepHost σ) (w : Sweep) (s : Scenario) (v : Variant) (dirs : ServiceDirs)
    (s₀ : σ) : List Event → σ → Prop
  | unready {h : ServiceHandle} {ls as : List Event} {s₁ s₂ : σ}
      (hl : Runs (w.launcher.launch host.toServiceHost.recorded v dirs) (host.openCapture s₀) ls
        (.ok (.ok h)) s₁)
      (hend : clockEnd ≤ host.now s₁ + w.launcher.timeouts.mount.nanos)
      (ha : Runs (h.abandon host.toServiceHost.recorded) s₁ as (.ok ()) s₂) :
      Overrun host w s v dirs s₀ (.openedCapture :: (ls ++ as)) s₂
  | uncaptured {course : Course} {rules : Surveillance} {es : List Event} {s₁ : σ}
      (hc : Conduct host w s v dirs s₀ course rules es s₁)
      (hend : clockEnd ≤ host.now s₁ + w.launcher.timeouts.outputDrain.nanos) :
      Overrun host w s v dirs s₀ es s₁

/-- A machine on which the processes of a sweep remain its children while bodies run. -/
structure SweepHost.Reliable (host : SweepHost σ) (child : Pid → σ → Prop) : Prop
    extends ServiceHost.Reliable host.toServiceHost child where
  resumed {space : Scenario.Workspace} {pid : Pid} {s : σ} :
    child pid s → child pid (host.resume space s)

namespace Sweep

variable (host : SweepHost σ)

theorem conclude_runs {d : Span} (rules : Surveillance) {c : Captured} {s s' : σ}
    (hfits : host.now s + d.nanos < clockEnd) (hd : host.drain d s = (c, s')) :
    Runs (conclude host.recorded d rules) s [.drained d c, .emitted c]
      (.ok (suspicions (rules.classify c))) (host.emit c s') := by
  have hdeadline : deadline? (host.recorded.now (s, [])) d = some (host.now s + d.nanos) :=
    if_pos hfits
  have hdrain : Runs (Act.ask (host.recorded.drain d)) s [.drained d c] (.ok c) s' :=
    .ask fun log ↦ by simp [SweepHost.recorded, hd]
  have hemit : Runs (Act.tell (host.recorded.emit c)) s' [.emitted c] (.ok ()) (host.emit c s') :=
    .tell fun _ ↦ rfl
  refine .get_bind (fun _ ↦ rfl) ?_
  rw [hdeadline]
  refine hdrain.bind (hemit.bind_last ?_)
  cases rules.classify c <;> exact .pure _ _

theorem conclude_overflows {d : Span} (rules : Surveillance) {s : σ}
    (hend : clockEnd ≤ host.now s + d.nanos) :
    Runs (conclude host.recorded d rules) s [] (.error .overflow) s := by
  have hdeadline : deadline? (host.recorded.now (s, [])) d = none := deadline?_eq_none_iff.mpr hend
  refine .get_bind (fun _ ↦ rfl) ?_
  rw [hdeadline]
  exact .stick _ s

section

variable (w : Sweep) (s : Scenario) (v : Variant) (dirs : ServiceDirs)

theorem conclude_mirrors (d : Span) (rules : Surveillance) :
    Mirrors (fun _ ↦ True) (conclude host.recorded d rules) (conclude host d rules) := by
  refine .get_bind (fun _ _ ↦ rfl) fun s ↦ ?_
  have hnow : host.recorded.now (s, []) = host.now s := rfl
  rw [hnow]
  cases deadline? (host.now s) d with
  | none => exact .stick _
  | some deadline =>
    refine .bind (.ask fun s ↦ ⟨.drained d (host.drain d s).1, trivial, fun _ ↦ rfl⟩) fun c ↦ ?_
    refine .bind (.tell fun s ↦ ⟨_, trivial, fun _ ↦ rfl⟩) fun _ ↦ ?_
    cases rules.classify c <;> exact .pure _

theorem tearDown_mirrors (grace : Span) (h : ServiceHandle)
    (result : Except ScenarioFailure Unit) :
    Mirrors (fun _ ↦ True) (tearDown host.recorded grace h result)
      (tearDown host grace h result) := by
  cases result with
  | ok u =>
    refine .bind ((ServiceHandle.stop_mirrors host.toServiceHost h).mono fun _ _ ↦ trivial) ?_
    intro x
    obtain ⟨e | u, h'⟩ := x <;> exact .pure _
  | error f =>
    refine .bind (.tell fun s ↦ ⟨_, trivial, fun _ ↦ rfl⟩) fun _ ↦ ?_
    exact .bind ((ServiceHandle.cleanup_mirrors host.toServiceHost h).mono fun _ _ ↦ trivial)
      fun _ ↦ .pure _

theorem executeIn_mirrors :
    Mirrors (fun _ ↦ True) (w.executeIn host.recorded s v dirs) (w.executeIn host s v dirs) := by
  refine .bind (.tell fun s ↦ ⟨_, trivial, fun _ ↦ rfl⟩) fun _ ↦ ?_
  refine .bind ((ServiceLauncher.start_mirrors host.toServiceHost w.launcher v dirs).mono
    fun _ _ ↦ trivial) fun r ↦ ?_
  cases r with
  | error e => exact .bind (conclude_mirrors host _ _) fun _ ↦ .pure _
  | ok h =>
    refine .bind (.ask fun s ↦ ⟨_, trivial, fun _ ↦ rfl⟩) fun x ↦ ?_
    refine .bind (tearDown_mirrors host _ _ _) fun _ ↦ ?_
    exact .bind (conclude_mirrors host _ _) fun _ ↦ .pure _

end

variable {host} {w : Sweep} {s : Scenario} {v : Variant} {dirs : ServiceDirs}

theorem tearDown_stops {grace : Span} {h h' : ServiceHandle} {verdict : Except TeardownError Unit}
    {s s' : σ} {ts : List Event}
    (ht : Runs (h.stop host.toServiceHost.recorded) s ts (.ok (verdict, h')) s') :
    Runs (tearDown host.recorded grace h (.ok ())) s ts (.ok (Course.stopped verdict).errors)
      s' := by
  cases verdict <;> exact ht.bind_last (.pure _ _)

theorem tearDown_forces {grace : Span} {h h' : ServiceHandle} {f : ScenarioFailure} {s s' : σ}
    {ts : List Event}
    (ht : Runs (h.cleanup host.toServiceHost.recorded) (host.sleep grace s) ts (.ok h') s') :
    Runs (tearDown host.recorded grace h (.error f)) s (.slept grace :: ts)
      (.ok (Course.forced f).errors) s' :=
  (Runs.slept grace s).bind (ht.bind_last (.pure _ _))

theorem perform_runs {ctx : Scenario.Context} {rules : Surveillance} {s : σ}
    {body : Scenario.Body} {result : Except ScenarioFailure Unit} {space : Scenario.Workspace}
    (hb : (body ctx).run { host.workspace s with surveillance := rules } = (result, space)) :
    Runs (perform host.recorded body ctx rules) s [.resumed] (.ok (result, space.surveillance))
      (host.resume space s) :=
  .ask fun log ↦ by simp [SweepHost.recorded, hb]

end Sweep

section

variable {host : SweepHost σ} {w : Sweep} {s : Scenario} {v : Variant} {dirs : ServiceDirs}
  {course : Course} {rules : Surveillance} {verdict : Except SuspiciousOutput Unit}
  {es es' : List Event} {s₀ s₁ s₂ s' : σ}

theorem Conduct.runs (hc : Conduct host w s v dirs s₀ course rules es s₁)
    {r : Except Stuck (List Error)}
    (hend : Runs (Sweep.conclude host.recorded w.launcher.timeouts.outputDrain rules) s₁ es' r s₂) :
    Runs (w.executeIn host.recorded s v dirs) s₀ (es ++ es') (r.map (course.errors ++ ·)) s₂ := by
  have hopen : Runs (Act.tell host.recorded.openCapture) s₀ [.openedCapture] (.ok ())
      (host.openCapture s₀) := .tell fun _ ↦ rfl
  cases hc with
  | unstarted hs => exact hopen.bind (hs.bind (hend.map _))
  | stopped hs hb ht =>
    rw [List.cons_append, List.append_assoc]
    exact hopen.bind (hs.bind ((Sweep.perform_runs hb).bind
      ((Sweep.tearDown_stops ht).bind (hend.map _))))
  | forced hs hb ht =>
    rw [List.cons_append, List.append_assoc]
    exact hopen.bind (hs.bind ((Sweep.perform_runs hb).bind
      ((Sweep.tearDown_forces ht).bind (hend.map _))))

theorem Window.runs (hw : Window host w s v dirs s₀ course verdict es s') :
    Runs (w.executeIn host.recorded s v dirs) s₀ es (.ok (course.errors ++ suspicions verdict))
      s' := by
  cases hw with
  | captured hc hfits hd => exact hc.runs (Sweep.conclude_runs host _ hfits hd)

theorem Overrun.runs (ho : Overrun host w s v dirs s₀ es s') :
    Runs (w.executeIn host.recorded s v dirs) s₀ es (.error .overflow) s' := by
  cases ho with
  | unready hl hend ha =>
    have hopen : Runs (Act.tell host.recorded.openCapture) s₀ [.openedCapture] (.ok ())
        (host.openCapture s₀) := .tell fun _ ↦ rfl
    exact hopen.bind (ServiceLauncher.start_overflows hl hend ha).bind_stuck
  | uncaptured hc hend =>
    have hruns := hc.runs (Sweep.conclude_overflows host _ hend)
    rwa [List.append_nil] at hruns

theorem Conduct.window_or_overrun (hc : Conduct host w s v dirs s₀ course rules es s₁) :
    (∃ course verdict es s', Window host w s v dirs s₀ course verdict es s') ∨
      ∃ es s', Overrun host w s v dirs s₀ es s' := by
  rcases Nat.lt_or_ge (host.now s₁ + w.launcher.timeouts.outputDrain.nanos) clockEnd with
    hfits | hend
  · exact .inl ⟨_, _, _, _, .captured hc hfits rfl⟩
  · exact .inr ⟨_, _, .uncaptured hc hend⟩

/-- What happens in directories that exist, unless something never happens for which the run
waits. -/
theorem window_or_overrun (h : (w.executeIn host s v dirs).Ends s₀) :
    (∃ course verdict es s', Window host w s v dirs s₀ course verdict es s') ∨
      ∃ es s', Overrun host w s v dirs s₀ es s' := by
  have hopen : (tell host.openCapture).run s₀ = (.ok (), host.openCapture s₀) := run_tell _ s₀
  have hopened := Ends.of_bind_ok h hopen
  rcases hs : (w.launcher.start host.toServiceHost v dirs).run (host.openCapture s₀) with
    ⟨⟨_ | _⟩ | r, s₁⟩
  · exact absurd (congrArg Prod.fst hs) hopened.of_bind
  · obtain ⟨h', s₂, hl, hend, ha⟩ := ServiceLauncher.start_eq_overflow_iff.mp hs
    obtain ⟨ls, hl⟩ := (ServiceLauncher.launch_mirrors host.toServiceHost w.launcher v dirs).runs hl
    obtain ⟨as, ha⟩ := (ServiceHandle.abandon_mirrors host.toServiceHost h').runs ha
    exact .inr ⟨_, _, .unready hl hend ha⟩
  have hafter := Ends.of_bind_ok hopened hs
  obtain ⟨ss, hs⟩ := (ServiceLauncher.start_mirrors host.toServiceHost w.launcher v dirs).runs hs
  cases r with
  | error e => exact Conduct.window_or_overrun (.unstarted hs)
  | ok h =>
    rcases hb : (s.body (w.context host h)).run
      { host.workspace s₁ with surveillance := ⟨w.rules⟩ } with ⟨result, space⟩
    have htorn := (Ends.of_bind_ok hafter (run_ask _ s₁)).of_bind
    simp only [hb] at htorn
    cases result with
    | ok u =>
      rcases ht : (h.stop host.toServiceHost).run (host.resume space s₁) with
        ⟨⟨_ | _⟩ | ⟨stop, h'⟩, s₂⟩
      · exact absurd (congrArg Prod.fst ht) htorn.of_bind
      · exact absurd ht (ServiceHandle.stop_fits _ _)
      · obtain ⟨ts, ht⟩ := (ServiceHandle.stop_mirrors host.toServiceHost h).runs ht
        exact Conduct.window_or_overrun (.stopped hs hb ht)
    | error f =>
      rcases ht : (h.cleanup host.toServiceHost).run
        (host.sleep w.launcher.timeouts.failureGrace (host.resume space s₁)) with
        ⟨⟨_ | _⟩ | h', s₂⟩
      · exact absurd (congrArg Prod.fst ht) (Ends.of_bind_ok htorn (run_tell _ _)).of_bind
      · exact absurd ht (ServiceHandle.cleanup_fits _ _)
      · obtain ⟨ts, ht⟩ := (ServiceHandle.cleanup_mirrors host.toServiceHost h).runs ht
        exact Conduct.window_or_overrun (.forced hs hb ht)

theorem Sweep.executeIn_eq_ok_iff {errors : List Error} :
    (w.executeIn host s v dirs).run s₀ = (.ok errors, s') ↔
      ∃ course verdict es, Window host w s v dirs s₀ course verdict es s' ∧
        errors = course.errors ++ suspicions verdict := by
  have hmirrors := executeIn_mirrors host w s v dirs
  constructor
  · intro hr
    rcases window_or_overrun (ends_of_run hr nofun) with
      ⟨course, verdict, es, s₂, hw⟩ | ⟨es, s₂, ho⟩
    · rw [hmirrors.run_eq hw.runs] at hr
      cases hr
      exact ⟨course, verdict, es, hw, rfl⟩
    · rw [hmirrors.run_eq ho.runs] at hr
      cases hr
  · rintro ⟨course, verdict, es, hw, rfl⟩
    exact hmirrors.run_eq hw.runs

theorem Sweep.executeIn_eq_overflow_iff :
    (w.executeIn host s v dirs).run s₀ = (.error .overflow, s') ↔
      ∃ es, Overrun host w s v dirs s₀ es s' := by
  have hmirrors := executeIn_mirrors host w s v dirs
  constructor
  · intro hr
    rcases window_or_overrun (ends_of_run hr nofun) with
      ⟨course, verdict, es, s₂, hw⟩ | ⟨es, s₂, ho⟩
    · rw [hmirrors.run_eq hw.runs] at hr
      cases hr
    · rw [hmirrors.run_eq ho.runs] at hr
      cases hr
      exact ⟨es, ho⟩
  · rintro ⟨es, ho⟩
    exact hmirrors.run_eq ho.runs

namespace Sweep

variable {root : Path} {files : FileSystem}

theorem execute_placed (hm : host.makeTemporary runStem s₀ = (.ok root, s₁))
    {created : Except SystemError ServiceDirs}
    (hd : ServiceDirs.createIn root (host.files s₁) = (created, files)) :
    (w.execute host s v).run s₀ =
      (lastly (host.removeTemporary root) (match created with
        | .error e => return [.io e]
        | .ok dirs => w.executeIn host s v dirs)).run (host.setFiles files s₁) := by
  have hcreate : (Act.ask fun s ↦ ((ServiceDirs.createIn root (host.files s)).1,
      host.setFiles (ServiceDirs.createIn root (host.files s)).2 s)).run s₁ =
        (.ok created, host.setFiles files s₁) := by
    rw [run_ask, hd]
  rw [execute, run_bind, run_ask, hm]
  exact run_lastly_bind hcreate

theorem execute_run (hm : host.makeTemporary runStem s₀ = (.ok root, s₁))
    (hd : ServiceDirs.createIn root (host.files s₁) = (.ok dirs, files)) :
    (w.execute host s v).run s₀ =
      (lastly (host.removeTemporary root) (w.executeIn host s v dirs)).run
        (host.setFiles files s₁) :=
  execute_placed hm hd

theorem execute_eq_ok_iff {errors : List Error}
    (hm : host.makeTemporary runStem s₀ = (.ok root, s₁))
    (hd : ServiceDirs.createIn root (host.files s₁) = (.ok dirs, files)) :
    (w.execute host s v).run s₀ = (.ok errors, s') ↔
      ∃ course verdict es s₂, Window host w s v dirs (host.setFiles files s₁) course verdict es s₂ ∧
        errors = course.errors ++ suspicions verdict ∧ host.removeTemporary root s₂ = s' := by
  have hne : (.ok errors : Except Stuck (List Error)) ≠ .error .waiting := nofun
  rw [execute_run hm hd, run_lastly_eq_iff hne]
  constructor
  · intro h
    obtain ⟨s₂, hin, hs⟩ := h
    obtain ⟨course, verdict, es, hw, herr⟩ := executeIn_eq_ok_iff.mp hin
    exact ⟨course, verdict, es, s₂, hw, herr, hs⟩
  · intro h
    obtain ⟨course, verdict, es, s₂, hw, herr, hs⟩ := h
    exact ⟨s₂, executeIn_eq_ok_iff.mpr ⟨course, verdict, es, hw, herr⟩, hs⟩

theorem runOne_eq_ok_iff {report : RunReport}
    (hroot : s.requiresRoot = true → host.isRoot s₀ = true) :
    (w.runOne host s v).run s₀ = (.ok report, s') ↔
      ∃ errors, (w.execute host s v).run s₀ = (.ok errors, s') ∧
        report = ⟨s.testId v, .ofErrors errors, ⟨host.now s' - host.now s₀⟩⟩ := by
  have hrun : (w.runOne host s v).run s₀ = (do
      let outcome ← Outcome.ofErrors <$> w.execute host s v
      return ⟨s.testId v, outcome, ⟨host.now (← get) - host.now s₀⟩⟩ : Act σ RunReport).run s₀ := by
    rw [runOne, run_bind, run_get]
    dsimp only
    rw [run_bind, run_get]
    dsimp only
    rw [if_neg (by simpa using hroot)]
  rw [hrun, map_eq_pure_bind, bind_assoc, run_bind_eq_ok]
  simp only [pure_bind, run_bind, run_get]
  constructor
  · intro h
    obtain ⟨errors, s₁, he, hpure⟩ := h
    cases hpure
    exact ⟨errors, he, rfl⟩
  · intro h
    obtain ⟨errors, he, rfl⟩ := h
    exact ⟨errors, s', he, rfl⟩

variable {child : Pid → σ → Prop}

theorem conclude_ends (d : Span) (rules : Surveillance) (s : σ) :
    (conclude host d rules).Ends s := by
  refine Ends.bind (ends_of_run rfl nofun) fun _ s' hget ↦ ?_
  cases hget
  split
  · exact ends_of_run rfl nofun
  · refine (ends_ask _ _).bind fun c s₁ _ ↦ (ends_tell _ _).bind fun _ s₂ _ ↦ ?_
    split <;> exact ends_pure _ _

theorem tearDown_ends (hr : host.Reliable child) (hx : host.CommandsEnd) {grace : Span}
    {h : ServiceHandle} {s₀ : σ} (hn : h.state.isTerminal = false) (hg : h.Guards child s₀)
    (result : Except ScenarioFailure Unit) : (tearDown host grace h result).Ends s₀ := by
  cases result with
  | ok u =>
    refine (ServiceHandle.stop_ends hr.toReliable hx hn hg).bind fun x s₁ _ ↦ ?_
    obtain ⟨e | u, h'⟩ := x <;> exact ends_pure _ _
  | error f =>
    refine (ends_tell _ _).bind fun _ s₁ hs ↦ ?_
    cases hs
    exact (ServiceHandle.cleanup_ends hr.toReliable hx hn fun he ↦ hr.slept (hg he)).bind
      fun _ _ _ ↦ ends_pure _ _

theorem executeIn_ends (hr : host.Reliable child) (ht : host.Timely) (hx : host.CommandsEnd)
    (hp : 0 < w.launcher.timeouts.pollInterval.nanos) (s₀ : σ) :
    (w.executeIn host s v dirs).Ends s₀ := by
  refine (ends_tell _ _).bind fun _ s₁ _ ↦
    (ServiceLauncher.start_ends hr.toReliable ht hx hp s₁).bind fun r s₂ hs ↦ ?_
  cases r with
  | error e => exact (conclude_ends _ _ s₂).bind fun _ _ _ ↦ ends_pure _ _
  | ok h =>
    obtain ⟨hstate, hg⟩ := ServiceLauncher.start_guards hr.toReliable hs
    refine (ends_ask _ _).bind fun x s₃ hb ↦ ?_
    cases hb
    exact (tearDown_ends hr hx (by simp [hstate, ServiceState.isTerminal])
      (fun he ↦ hr.resumed (hg he)) _).bind fun _ s₄ _ ↦ (conclude_ends _ _ s₄).bind
        fun _ _ _ ↦ ends_pure _ _

/-- On a reliable machine a run comes to its end, unless the clock cannot express one of its
deadlines. -/
theorem execute_ends (hr : host.Reliable child) (ht : host.Timely) (hx : host.CommandsEnd)
    (hp : 0 < w.launcher.timeouts.pollInterval.nanos) (s₀ : σ) : (w.execute host s v).Ends s₀ := by
  refine (ends_ask _ _).bind fun made s₁ _ ↦ ?_
  cases made with
  | error e => exact ends_pure _ _
  | ok root =>
    refine Ends.lastly ((ends_ask _ _).bind fun created s₂ _ ↦ ?_)
    cases created with
    | error e => exact ends_pure _ _
    | ok dirs => exact executeIn_ends hr ht hx hp s₂

end Sweep

theorem Conduct.requests (hc : Conduct host w s v dirs s₀ course rules es s₁) :
    es.filter Event.ofSweep = .openedCapture :: course.body := by
  have hstart {r : Except Stuck (Except Error ServiceHandle)} {ss : List Event} {t : σ}
      (hs : Runs (w.launcher.start host.toServiceHost.recorded v dirs) (host.openCapture s₀) ss r
        t) : ss.filter Event.ofSweep = [] :=
    filter_ofSweep
      ((ServiceLauncher.start_mirrors host.toServiceHost w.launcher v dirs).forall_mem hs)
  cases hc with
  | unstarted hs => simp [List.filter_cons, hstart hs, Event.ofSweep, Course.body]
  | @stopped h h' space verdict ss ts s₁ s₂ hs hb ht =>
    have hts := filter_ofSweep ((ServiceHandle.stop_mirrors host.toServiceHost h).forall_mem ht)
    simp [List.filter_cons, hstart hs, hts, Event.ofSweep, Course.body]
  | @forced h h' space f ss ts s₁ s₂ hs hb ht =>
    have hts := filter_ofSweep ((ServiceHandle.cleanup_mirrors host.toServiceHost h).forall_mem ht)
    simp [List.filter_cons, hstart hs, hts, Event.ofSweep, Course.body]

/-- What a window requests beyond driving its service: it opens the capture, runs the body if the
service has started, and then once drains the capture and once shows what it got. -/
theorem Window.requests (hw : Window host w s v dirs s₀ course verdict es s') :
    ∃ c, es.filter Event.ofSweep = .openedCapture ::
      (course.body ++ [.drained w.launcher.timeouts.outputDrain c, .emitted c]) := by
  cases hw with
  | captured hc hfits hd =>
    rw [List.filter_append, hc.requests]
    exact ⟨_, rfl⟩

/-- A run that the end of the clock cuts short neither drains its capture nor shows anything. -/
theorem Overrun.requests (ho : Overrun host w s v dirs s₀ es s') :
    es.filter Event.ofSweep = [.openedCapture] ∨
      es.filter Event.ofSweep = [.openedCapture, .resumed] := by
  cases ho with
  | @unready h ls as s₁ s₂ hl hend ha =>
    have hls := filter_ofSweep
      ((ServiceLauncher.launch_mirrors host.toServiceHost w.launcher v dirs).forall_mem hl)
    have has := filter_ofSweep ((ServiceHandle.abandon_mirrors host.toServiceHost h).forall_mem ha)
    exact .inl (by simp [List.filter_cons, hls, has, Event.ofSweep])
  | @uncaptured course rules es s₁ hc hend =>
    rw [hc.requests]
    cases course with
    | unstarted e => exact .inl rfl
    | stopped verdict | forced f => exact .inr rfl

theorem ofErrors_suspicious (course : Course) (x : SuspiciousOutput) :
    ∃ fs, Outcome.ofErrors (course.errors ++ suspicions (.error x)) = .failed fs ∧
      .surveillance x ∈ fs := by
  have hmem : .surveillance x ∈ course.errors ++ suspicions (.error x) := by simp [suspicions]
  exact ⟨_, Outcome.ofErrors_eq_failed hmem rfl, List.mem_filter.mpr ⟨hmem, rfl⟩⟩

end

/-- A ward as the machine of a sweep, with a service that prints nothing. -/
def Ward.sweepHost (machine : ServiceHost Ward) : SweepHost Ward where
  toServiceHost := machine
  isRoot _ := true
  caller := {}
  isInterrupted _ := false
  workspace w := { files := w.files }
  resume space w := { w with files := space.files }
  makeTemporary _ w := (.ok (Bytes.ofString "/run"), w)
  removeTemporary _ w := w
  openCapture w := w
  drain _ w := ({}, w)
  emit _ w := w
  printLine _ w := w
  startLog _ _ w := w
  log _ _ _ w := w

def Sweep.ward : Sweep :=
  { config := {}, matrix := ⟨[]⟩, rules := [], launcher := Ward.launcher }

/-- A sweep that waits for the end of output as long as the clock runs. -/
def Sweep.patient : Sweep :=
  { ward with
    launcher := { Ward.launcher with
      timeouts := { Ward.launcher.timeouts with outputDrain := .ofSecs 0x8000000000000000 } } }

def Scenario.nothing : Scenario := { name := "nothing", body := fun _ ↦ return () }

end MountSweep
