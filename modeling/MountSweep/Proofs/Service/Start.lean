import MountSweep.Proofs.Service.Recording

namespace MountSweep

open Posix Time

variable {σ : Type}

/-- The failures of a start, each with the answer of the machine that it comes from. -/
inductive ServiceLauncher.Fails (host : ServiceHost σ) (l : ServiceLauncher) (dirs : ServiceDirs)
    (mode : NameMapMode) (program : String) (args : List String) : SetupError → Prop
  | unmapped {s : σ} {e : SystemError}
      (h : (mode.writeMappingFiles dirs.conf (host.files s)).1 = .error e) :
      Fails host l dirs mode program args (.nameMap dirs.conf e)
  | refused {s : σ} {e : SystemError}
      (h : (host.spawn (l.command program args) .captured s).1 = .error e) :
      Fails host l dirs mode program args (.spawn program e)
  | unreadable {s : σ} {pid : Pid} {e : SystemError} (h : (host.poll pid s).1 = .error e) :
      Fails host l dirs mode program args (.poll e)
  | ended {s : σ} {pid : Pid} {st : Status} (h : (host.poll pid s).1 = .ok (some st)) :
      Fails host l dirs mode program args (.prematureExit st.display)
  | late : Fails host l dirs mode program args (.mountTimeout dirs.mnt l.timeouts.mount)

variable {host : ServiceHost σ} {h h' : ServiceHandle} {l : ServiceLauncher} {v : Variant}
  {dirs : ServiceDirs} {options : ServiceOptions} {program : String} {args : List String}
  {mode : NameMapMode} {e : SetupError} {s s' : σ}

theorem Readies.fails {deadline n : ℕ} {es : List Event}
    {r : Except Stuck (Except SetupError Unit × ServiceHandle)} (he : h.ended = none)
    (hmnt : h.mnt = dirs.mnt) (htimeouts : h.timeouts = l.timeouts)
    (hr : Readies host h deadline n s es r s') (hfail : r = .ok (.error e, h')) :
    l.Fails host dirs mode program args e := by
  -- The handle stays the same from round to round, so the last round decides.
  induction hr with
  | exhausted => cases hfail
  | mounted => cases hfail
  | unreadable hm hp =>
    cases hfail
    rw [ServiceHandle.look_none he] at hp
    exact .unreadable (congrArg Prod.fst hp)
  | ended hm hp =>
    cases hfail
    rw [ServiceHandle.look_none he] at hp
    exact .ended (congrArg Prod.fst hp)
  | late =>
    cases hfail
    rw [hmnt, htimeouts]
    exact .late
  | again hm hp hd hr ih => exact ih hfail

namespace ServiceLauncher

theorem settle_fails (he : h.ended = none) (hmnt : h.mnt = dirs.mnt)
    (htimeouts : h.timeouts = l.timeouts) (hs : (h.settle host).run s = (.ok (.error e, h'), s')) :
    l.Fails host dirs mode program args e := by
  obtain ⟨⟨e' | u, h₁⟩, s₁, hw, hs⟩ := Act.run_bind_eq_ok.mp hs
  · obtain ⟨h₂, s₂, -, hs⟩ := Act.run_bind_eq_ok.mp hs
    cases hs
    obtain ⟨deadline, es, hr, -⟩ := ServiceHandle.waitReady_returns host h hw
    exact hr.fails he hmnt htimeouts rfl
  · cases hs

/-- A launch either fails or hands over the handle of a process of which nothing is known yet. -/
theorem launch_cases {r : Except Error ServiceHandle} (ho : v.options = .ok options)
    (hc : l.commandLine v dirs = .ok (program :: args))
    (hl : (l.launch host v dirs).run s = (.ok r, s')) :
    (∃ e, r = .error (.setup e) ∧ l.Fails host dirs options.nameMap program args e) ∨
      ∃ h, r = .ok h ∧ h.ended = none ∧ h.mnt = dirs.mnt ∧ h.timeouts = l.timeouts := by
  simp only [launch, ho, hc] at hl
  obtain ⟨written, s₁, hw, hl⟩ := Act.run_bind_eq_ok.mp hl
  cases written with
  | error e =>
    cases hl
    exact .inl ⟨_, rfl, .unmapped (Except.ok.inj (congrArg Prod.fst hw))⟩
  | ok u =>
    obtain ⟨spawned, s₂, hspawn, hl⟩ := Act.run_bind_eq_ok.mp hl
    cases spawned with
    | error e =>
      cases hl
      exact .inl ⟨_, rfl, .refused (Except.ok.inj (congrArg Prod.fst hspawn))⟩
    | ok pid =>
      cases hl
      exact .inr ⟨_, rfl, rfl, rfl, rfl⟩

theorem start_fails {x : Error} (ho : v.options = .ok options)
    (hc : l.commandLine v dirs = .ok (program :: args))
    (hs : (l.start host v dirs).run s = (.ok (.error x), s')) :
    ∃ e, x = .setup e ∧ l.Fails host dirs options.nameMap program args e := by
  obtain ⟨r, s₁, hl, hs⟩ := Act.run_bind_eq_ok.mp hs
  obtain ⟨e, rfl, he⟩ | ⟨h, rfl, hended, hmnt, htimeouts⟩ := launch_cases ho hc hl
  · cases hs
    exact ⟨e, rfl, he⟩
  · obtain ⟨⟨e | u, h'⟩, s₂, hset, hs⟩ := Act.run_bind_eq_ok.mp hs
    · cases hs
      exact ⟨e, rfl, settle_fails hended hmnt htimeouts hset⟩
    · cases hs

end ServiceLauncher

end MountSweep
