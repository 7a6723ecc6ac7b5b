import MountSweep.Proofs.Sweep.Window

namespace MountSweep

open Posix Time Output

variable {σ : Type}

namespace Checks

variable {h : ServiceHandle} {c : Checks} {e : TeardownError}

theorem FirstFailure.isSkip (hf : FirstFailure h c e) :
    (Error.teardown e).isSkip = true ↔ c.unmounted ≠ .ended (.exited 0) := by
  cases hf with
  | refused hu => simp [Error.isSkip, Error.category, hu]
  | failed hu hs => simpa [Error.isSkip, Error.category, hu] using hs
  | mounted hu hm => simp [Error.isSkip, Error.category, hu]
  | late hu hm ha => simp [Error.isSkip, Error.category, hu]
  | lost hu hm ha => simp [Error.isSkip, Error.category, hu]
  | abnormal hu hm ha hs => simp [Error.isSkip, Error.category, hu]

end Checks

/-- A clean teardown after which the process is known to have ended, but not with success, has
failed, whatever the machine does. -/
theorem ServiceHandle.stop_failed {host : ServiceHost σ} {h h' : ServiceHandle} {s s' : σ}
    {v : Except TeardownError Unit} {st : Status} (hn : h.state.isTerminal = false)
    (hs : (h.stop host).run s = (.ok (v, h'), s')) (he : h'.ended = some st)
    (hst : st ≠ .exited 0) : ∃ e, v = .error e ∧ (host.checks h s).FirstFailure h e := by
  obtain ⟨us, r, s₁, hu, hrun⟩ := unmount_runs host h s
  rcases r with why | ⟨v₁, h₁⟩
  · have hstop := (stop_mirrors host h).run_eq (stop_hangs host h s hn hrun)
    rw [hstop] at hs
    cases hs
  obtain ⟨hv, hok⟩ := hu.verdict
  cases hv with
  | pass hp =>
    have hstop := (stop_mirrors host h).run_eq (stop_clean host h s hn hrun)
    rw [hstop] at hs
    cases hs
    have hzero : h₁.ended = some (.exited 0) := hok rfl
    rw [hzero] at he
    exact absurd (Option.some.inj he).symm hst
  | @fail e hf =>
    obtain ⟨es, hclean, -⟩ := cleanup_mirrors host h₁ s₁
    have hstop := (stop_mirrors host h).run_eq (stop_forced host h s hn hrun hclean)
    rw [hstop] at hs
    rcases hc : (h₁.cleanup host).run s₁ with ⟨why | h₂, s₂⟩
    · rw [hc] at hs
      cases hs
    · rw [hc] at hs
      cases hs
      exact ⟨e, rfl, hf⟩

section

variable {host : SweepHost σ} {w : Sweep} {s : Scenario} {v : Variant} {dirs : ServiceDirs}

/-- A window whose service starts and whose body succeeds is one with a clean teardown. -/
theorem Window.stopped_of_body {s₀ s₁ s₂ s' : σ} {h h' : ServiceHandle}
    {space : Scenario.Workspace} {stop : Except TeardownError Unit} {course : Course}
    {verdict : Except SuspiciousOutput Unit} {es : List Event}
    (hs : (w.launcher.start host.toServiceHost v dirs).run (host.openCapture s₀) =
      (.ok (.ok h), s₁))
    (hb : (s.body (w.context host h)).run { host.workspace s₁ with surveillance := ⟨w.rules⟩ } =
      (.ok (), space))
    (ht : (h.stop host.toServiceHost).run (host.resume space s₁) = (.ok (stop, h'), s₂))
    (hw : Window host w s v dirs s₀ course verdict es s') :
    course = .stopped stop ∧ verdict = space.surveillance.classify
      (host.drain w.launcher.timeouts.outputDrain s₂).1 := by
  have hstart := ServiceLauncher.start_mirrors host.toServiceHost w.launcher v dirs
  obtain ⟨hc, hfits, hd⟩ := hw
  cases hc with
  | unstarted hs' =>
    rw [hstart.run_eq hs'] at hs
    cases hs
  | forced hs' hb' ht' =>
    rw [hstart.run_eq hs'] at hs
    cases hs
    rw [hb] at hb'
    cases hb'
  | stopped hs' hb' ht' =>
    rw [hstart.run_eq hs'] at hs
    cases hs
    rw [hb] at hb'
    cases hb'
    rw [(ServiceHandle.stop_mirrors host.toServiceHost h).run_eq ht'] at ht
    cases ht
    rw [hd]
    exact ⟨rfl, rfl⟩

/-- A run whose clean teardown failed is skipped only if that failure skips it and its output is not
suspicious. -/
theorem ofErrors_stopped {e : TeardownError} {verdict : Except SuspiciousOutput Unit}
    {outcome : Outcome}
    (ho : outcome = .ofErrors ((Course.stopped (.error e)).errors ++ suspicions verdict)) :
    (outcome.isFailed = true ↔ (Error.teardown e).isSkip = false ∨ verdict ≠ .ok ()) ∧
      (outcome.isFailed = false → outcome = .skipped (Error.teardown e).message) := by
  cases verdict with
  | error x =>
    obtain ⟨fs, hf, -⟩ := ofErrors_suspicious (.stopped (.error e)) x
    rw [hf] at ho
    simp [ho, Outcome.isFailed]
  | ok u =>
    rw [suspicions, List.append_nil, Course.errors] at ho
    cases hskip : (Error.teardown e).isSkip with
    | false =>
      rw [Outcome.ofErrors_eq_failed (List.mem_singleton_self _) hskip] at ho
      simp [ho, Outcome.isFailed]
    | true =>
      rw [Outcome.ofErrors_singleton hskip] at ho
      simp [ho, Outcome.isFailed]

/-- A run whose body succeeded and whose service is then known to have ended, but not with success,
fails exactly if the unmount command of its clean teardown succeeded or its output is suspicious.
Otherwise the end of the service goes unreported, and the run is skipped. -/
theorem crashed_run_outcome {s₀ s₁ s₂ s₃ s' : σ} {root : Path} {files : FileSystem}
    {h h' : ServiceHandle} {space : Scenario.Workspace} {stop : Except TeardownError Unit}
    {st : Status} {report : RunReport}
    (hm : host.makeTemporary Sweep.runStem s₀ = (.ok root, s₁))
    (hd : ServiceDirs.createIn root (host.files s₁) = (.ok dirs, files))
    (hs : (w.launcher.start host.toServiceHost v dirs).run
      (host.openCapture (host.setFiles files s₁)) = (.ok (.ok h), s₂))
    (hb : (s.body (w.context host h)).run { host.workspace s₂ with surveillance := ⟨w.rules⟩ } =
      (.ok (), space))
    (ht : (h.stop host.toServiceHost).run (host.resume space s₂) = (.ok (stop, h'), s₃))
    (he : h'.ended = some st) (hst : st ≠ .exited 0)
    (hroot : s.requiresRoot = true → host.isRoot s₀ = true)
    (hr : (w.runOne host s v).run s₀ = (.ok report, s')) :
    (report.outcome.isFailed = true ↔
      (host.checks h (host.resume space s₂)).unmounted = .ended (.exited 0) ∨
        space.surveillance.classify (host.drain w.launcher.timeouts.outputDrain s₃).1 ≠ .ok ()) ∧
      (report.outcome.isFailed = false → report.outcome.isSkipped = true) := by
  obtain ⟨h₀, s₄, h₁, -, -, hh⟩ := ServiceLauncher.start_returns host.toServiceHost _ _ _ hs
  have hn : h.state.isTerminal = false := by
    rw [hh]
    rfl
  obtain ⟨e, rfl, hf⟩ := ServiceHandle.stop_failed hn ht he hst
  obtain ⟨errors, hexec, rfl⟩ := (Sweep.runOne_eq_ok_iff hroot).mp hr
  obtain ⟨course, verdict, es, s₅, hw, rfl, -⟩ := (Sweep.execute_eq_ok_iff hm hd).mp hexec
  obtain ⟨rfl, rfl⟩ := hw.stopped_of_body hs hb ht
  obtain ⟨hfailed, hskipped⟩ := ofErrors_stopped rfl
  have hunmount : (Error.teardown e).isSkip = false ↔
      (host.checks h (host.resume space s₂)).unmounted = .ended (.exited 0) := by
    rw [← Bool.not_eq_true, hf.isSkip, not_not]
  refine ⟨hfailed.trans (or_congr_left hunmount), fun hno ↦ ?_⟩
  rw [hskipped hno]
  rfl

end

/-- A process that mounts and then crashes by itself, without any signal, does not make its run fail
if the unmount command fails too. -/
theorem crashed_run_skipped :
    ∃ root s₁ dirs files h s₂ space stop h' s₃ report s',
      (Ward.sweepHost Ward.crashed).makeTemporary Sweep.runStem { mounted := false } =
        (.ok root, s₁) ∧
      ServiceDirs.createIn root ((Ward.sweepHost Ward.crashed).files s₁) = (.ok dirs, files) ∧
      (Sweep.ward.launcher.start Ward.crashed ⟨[]⟩ dirs).run { s₁ with files } =
        (.ok (.ok h), s₂) ∧
      (Scenario.nothing.body (Sweep.ward.context (Ward.sweepHost Ward.crashed) h)).run
        { (Ward.sweepHost Ward.crashed).workspace s₂ with surveillance := ⟨[]⟩ } = (.ok (), space) ∧
      (h.stop Ward.crashed).run { s₂ with files := space.files } = (.ok (stop, h'), s₃) ∧
      (∃ ts, Runs (h.stop Ward.crashed.recorded) { s₂ with files := space.files } ts
        (.ok (stop, h')) s₃ ∧ signals ts = []) ∧
      h'.ended = some (.exited 3) ∧
      (Sweep.ward.runOne (Ward.sweepHost Ward.crashed) Scenario.nothing ⟨[]⟩).run
        { mounted := false } = (.ok report, s') ∧
      report.outcome.isFailed = false ∧ report.outcome.isSkipped = true := by
  obtain ⟨root, s₁, dirs, files, h, s₂, space, stop, h', s₃, report, s', hm, hd, hs, hb, ht, hsig,
      he, hr, hx, hc⟩ : ∃ root s₁ dirs files h s₂ space stop h' s₃ report s',
      (Ward.sweepHost Ward.crashed).makeTemporary Sweep.runStem { mounted := false } =
        (.ok root, s₁) ∧
      ServiceDirs.createIn root ((Ward.sweepHost Ward.crashed).files s₁) = (.ok dirs, files) ∧
      (Sweep.ward.launcher.start Ward.crashed ⟨[]⟩ dirs).run { s₁ with files } =
        (.ok (.ok h), s₂) ∧
      (Scenario.nothing.body (Sweep.ward.context (Ward.sweepHost Ward.crashed) h)).run
        { (Ward.sweepHost Ward.crashed).workspace s₂ with surveillance := ⟨[]⟩ } = (.ok (), space) ∧
      (h.stop Ward.crashed).run { s₂ with files := space.files } = (.ok (stop, h'), s₃) ∧
      signals ((h.stop Ward.crashed.recorded).run ({ s₂ with files := space.files }, [])).2.2 = [] ∧
      h'.ended = some (.exited 3) ∧
      (Sweep.ward.runOne (Ward.sweepHost Ward.crashed) Scenario.nothing ⟨[]⟩).run
        { mounted := false } = (.ok report, s') ∧
      (Ward.crashed.checks h { s₂ with files := space.files }).unmounted = .ended (.exited 1) ∧
      space.surveillance.classify {} = .ok () :=
    ⟨_, _, _, _, _, _, _, _, _, _, _, _, rfl, rfl, rfl, rfl, rfl, rfl, rfl, rfl, rfl, rfl⟩
  obtain ⟨ts, hts⟩ := (ServiceHandle.stop_mirrors Ward.crashed h).runs ht
  rw [hts [], List.nil_append] at hsig
  obtain ⟨hfailed, hskipped⟩ := crashed_run_outcome (w := Sweep.ward)
    (s := Scenario.nothing) (v := ⟨[]⟩) hm hd hs hb ht he (by decide) (fun _ ↦ rfl) hr
  have hno : report.outcome.isFailed = false := by
    rw [← Bool.not_eq_true, hfailed, not_or, not_not]
    refine ⟨fun hu ↦ ?_, hc⟩
    cases hx.symm.trans hu
  exact ⟨root, s₁, dirs, files, h, s₂, space, stop, h', s₃, report, s', hm, hd, hs, hb, ht,
    ⟨ts, hts, hsig⟩, he, hr, hno, hskipped hno⟩

end MountSweep
