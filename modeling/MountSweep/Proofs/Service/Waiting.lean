import MountSweep.Proofs.Service.Readiness

namespace MountSweep

open Posix Time

variable {σ α : Type} {host : ServiceHost σ} {child : Pid → σ → Prop} {h : ServiceHandle}
  {s s' : σ} {es es' : List Event}

/-- The requests of a call that runs an unmount command on a path: it is left waiting exactly if a
command that it has run never ends, the commands that it runs are the unmount command, and it waits
for the process no longer than a timeout for it, unless it has sent `SIGKILL`. -/
structure Waits (command : List String) (mnt : Path) (t : TimeoutConfig) (es : List Event)
    (r : Except Stuck α) : Prop where
  waiting_iff : r = .error .waiting ↔ ∃ c k, .executed c k .never ∈ es
  commands {c : Command} {k : Sink} {x : Execution} : .executed c k x ∈ es →
    ∃ program args, command = program :: args ∧
      c = { program := Bytes.ofString program, args := args.map Bytes.ofString ++ [mnt] }
  limited {pid : Pid} {limit : Option Span} {a : Awaited} : .awaited pid limit a ∈ es →
    limit = some t.stop ∨ limit = some t.killGrace ∨
      limit = none ∧ .signalled pid .kill ∈ es

/-- A look at the machine, which neither runs a command nor waits for a process. -/
def Event.isLook : Event → Bool
  | .executed .. | .awaited .. => false
  | _ => true

namespace Waits

variable {command : List String} {mnt : Path} {t : TimeoutConfig} {β : Type}

theorem of_looks {r : Except Stuck α} (hr : r ≠ .error .waiting) (hes : ∀ e ∈ es, e.isLook) :
    Waits command mnt t es r where
  waiting_iff := ⟨fun h ↦ absurd h hr, fun ⟨_, _, h⟩ ↦ nomatch hes _ h⟩
  commands h := nomatch hes _ h
  limited h := nomatch hes _ h

theorem append {x : α} {r : Except Stuck β} (h : Waits command mnt t es (.ok x : Except Stuck α))
    (h' : Waits command mnt t es' r) : Waits command mnt t (es ++ es') r where
  waiting_iff := by
    have hends : ¬ ∃ c k, .executed c k .never ∈ es := fun hn ↦ nomatch h.waiting_iff.mpr hn
    simp only [List.mem_append, exists_or, hends, false_or]
    exact h'.waiting_iff
  commands hm := (List.mem_append.mp hm).elim h.commands h'.commands
  limited hm := by
    rcases List.mem_append.mp hm with hm | hm
    · rcases h.limited hm with hs | hg | ⟨hn, hk⟩
      · exact .inl hs
      · exact .inr (.inl hg)
      · exact .inr (.inr ⟨hn, List.mem_append_left _ hk⟩)
    · rcases h'.limited hm with hs | hg | ⟨hn, hk⟩
      · exact .inl hs
      · exact .inr (.inl hg)
      · exact .inr (.inr ⟨hn, List.mem_append_right _ hk⟩)

theorem congr {r : Except Stuck α} {r' : Except Stuck β}
    (hr : r = .error .waiting ↔ r' = .error .waiting) (h : Waits command mnt t es r) :
    Waits command mnt t es r' :=
  ⟨hr.symm.trans h.waiting_iff, h.commands, h.limited⟩

theorem executed {program : String} {args : List String} (k : Sink) {x : Execution}
    {r : Except Stuck α} (hr : r = .error .waiting ↔ x = .never) :
    Waits (program :: args) mnt t
      [.executed
        { program := Bytes.ofString program, args := args.map Bytes.ofString ++ [mnt] } k x]
      r where
  waiting_iff := by simp [hr, eq_comm]
  commands hm := by
    cases List.mem_singleton.mp hm
    exact ⟨program, args, rfl, rfl⟩
  limited hm := nomatch List.mem_singleton.mp hm

end Waits

theorem isLook_asks {e : Event} (he : e.isLook) : ∀ e' ∈ h.asks e, e'.isLook := by
  unfold ServiceHandle.asks
  split <;> simp [he]

/-- While the mount is waited for, no command is run and the process is only looked at. -/
theorem Readies.isLook {deadline n : ℕ}
    {r : Except Stuck (Except SetupError Unit × ServiceHandle)}
    (hr : Readies host h deadline n s es r s') : ∀ e ∈ es, e.isLook := by
  induction hr with
  | exhausted => exact nofun
  | mounted => simp [Event.isLook]
  | unreadable | ended | late => exact List.forall_mem_cons.mpr ⟨rfl, isLook_asks rfl⟩
  | again hm hp hd hr ih =>
    refine List.forall_mem_cons.mpr ⟨rfl, List.forall_mem_append.mpr ⟨isLook_asks rfl, ?_⟩⟩
    exact List.forall_mem_cons.mpr ⟨rfl, ih⟩

namespace ServiceHandle

abbrev Waits (h : ServiceHandle) (es : List Event) (r : Except Stuck α) : Prop :=
  MountSweep.Waits h.unmountCommand h.mnt h.timeouts es r

theorem waits_unmountRequest (k : Sink) {x : Execution} {r : Except Stuck α}
    (hx : host.unmount h k s = (x, s')) (hr : r = .error .waiting ↔ x = .never) :
    h.Waits (h.unmountRequest k x) r := by
  unfold ServiceHost.unmount at hx
  unfold Waits unmountRequest
  cases hc : h.unmountCommand with
  | nil =>
    rw [hc] at hx
    cases hx
    exact .of_looks (fun hw ↦ nomatch hr.mp hw) nofun
  | cons program args => exact .executed k hr

theorem waits_asks_awaited (h : ServiceHandle) (limit : Option Span) (a : Awaited) (x : α)
    (hl : limit = some h.timeouts.stop ∨ limit = some h.timeouts.killGrace) :
    h.Waits (h.asks (.awaited h.pid limit a)) (.ok x : Except Stuck α) := by
  unfold asks
  split
  · refine ⟨by simp, by simp, fun hm ↦ ?_⟩
    cases List.mem_singleton.mp hm
    exact hl.imp_right .inl
  · exact .of_looks nofun nofun

theorem reclaim_waits (hr : host.Reliable child) (hg : h.Guards child s) :
    ∃ es h' s', Runs (h.reclaim host.recorded) s es (.ok h') s' ∧
      h.Waits es (.ok h' : Except Stuck ServiceHandle) := by
  obtain ⟨es, st, s', hrun, -⟩ := reclaim_reaps hr hg
  obtain ⟨es', r, s₁, hcase, hrun'⟩ := reclaim_runs host h s
  obtain ⟨rfl, rfl, rfl⟩ := hrun.unique hrun'
  refine ⟨es, _, s', hrun, ?_⟩
  generalize hres : (.ok (h.learn (some st)) : Except Stuck ServiceHandle) = r at hcase
  cases hcase with
  | gone hp => exact .of_looks nofun (isLook_asks rfl)
  | obeyed =>
    refine ⟨by simp, by simp, fun hm ↦ ?_⟩
    have hlimit := by simpa using hm
    exact .inr (.inl hlimit.2.1)
  | killed =>
    refine ⟨by simp, by simp, fun hm ↦ ?_⟩
    have hlimit := by simpa using hm
    rcases hlimit with ⟨-, hgrace, -⟩ | ⟨rfl, hnone, -⟩
    · exact .inr (.inl hgrace)
    · exact .inr (.inr ⟨hnone, by simp⟩)
  | hangs => cases hres

theorem cleanup_waits (hr : host.Reliable child) (hg : h.Guards child s) :
    ∃ es r s', Runs (h.cleanup host.recorded) s es r s' ∧ h.Waits es r := by
  cases ht : h.state.isTerminal with
  | true => exact ⟨_, _, _, cleanup_terminal host h s ht, .of_looks nofun nofun⟩
  | false =>
    rcases hx : host.unmount h .discarded s with ⟨x, s₁⟩
    by_cases hn : x = .never
    · subst hn
      exact ⟨_, _, _, cleanup_hangs host h s ht hx, waits_unmountRequest .discarded hx (by simp)⟩
    · have hg' : ({ h with state := .killed } : ServiceHandle).Guards child s₁ :=
        Guards.unmounted hr hg hx
      obtain ⟨es, h', s', hrun, hwaits⟩ := reclaim_waits hr hg'
      have hunmount : h.Waits (h.unmountRequest .discarded x) (.ok () : Except Stuck Unit) :=
        waits_unmountRequest .discarded hx (by simp [hn])
      exact ⟨_, _, s', cleanup_runs host h s ht hx hn hrun, hunmount.append hwaits⟩

theorem ne_never_of_unmountVerdict {x : Execution} {v : Except TeardownError Unit}
    (hv : h.unmountVerdict x = .ok v) : x ≠ .never := by
  rintro rfl
  cases hv

/-- The checks of a clean teardown are left waiting exactly if the unmount command never ends. -/
theorem unmount_waits (hr : host.Reliable child) (hg : h.Guards child s) :
    ∃ es r s', Runs (h.unmount host.recorded) s es r s' ∧ h.Waits es r ∧
      ∀ v h', r = .ok (v, h') → h'.Guards child s' ∧ ∃ o, h' = h.learn o := by
  obtain ⟨es, r, s', hcase, hrun⟩ := unmount_runs host h s
  refine ⟨es, r, s', hrun, ?_⟩
  have hended {x : Execution} {v : Except TeardownError Unit} {s₁ : σ}
      (hx : host.unmount h .shown s = (x, s₁)) (hv : h.unmountVerdict x = .ok v) :
      h.Waits (h.unmountRequest .shown x) (.ok () : Except Stuck Unit) :=
    waits_unmountRequest .shown hx (by simp [ne_never_of_unmountVerdict hv])
  cases hcase with
  | hangs hx => exact ⟨waits_unmountRequest .shown hx (by simp), nofun⟩
  | failed hx hv =>
    refine ⟨(hended hx hv).congr (by simp), fun v h' he ↦ ?_⟩
    cases he
    exact ⟨hg.unmounted hr hx, none, rfl⟩
  | mounted hx hv hm =>
    refine ⟨(hended hx hv).append (.of_looks nofun (by simp [Event.isLook])), fun v h' he ↦ ?_⟩
    cases he
    exact ⟨fun he ↦ hr.probed hm (hg.unmounted hr hx he), none, rfl⟩
  | @waited x a s₁ s₂ s₃ hx hv hm ha =>
    have hprobe : h.Waits [.probed h.mnt false] (.ok () : Except Stuck Unit) :=
      .of_looks nofun (by simp [Event.isLook])
    have hawait := h.waits_asks_awaited (some h.timeouts.stop) a
      (h.waitVerdict a, h.learn a.status?) (.inl rfl)
    refine ⟨(hended hx hv).append (hprobe.append hawait), fun v h' he ↦ ?_⟩
    cases he
    refine ⟨?_, _, rfl⟩
    have hg₂ : h.Guards child s₂ := fun he ↦ hr.probed hm (hg.unmounted hr hx he)
    obtain ⟨st, rfl⟩ | ⟨rfl, hg₃⟩ := hg₂.waited hr ha
    · exact nofun
    · exact hg₃

/-- A clean teardown is left waiting exactly if an unmount command that it runs never ends. -/
theorem stop_waits (hr : host.Reliable child) (hg : h.Guards child s) :
    ∃ es r s', Runs (h.stop host.recorded) s es r s' ∧ h.Waits es r := by
  cases ht : h.state.isTerminal with
  | true => exact ⟨_, _, _, stop_terminal host h s ht, .of_looks nofun nofun⟩
  | false =>
    obtain ⟨es, r, s₁, hrun, hwaits, hleft⟩ := unmount_waits hr hg
    rcases r with why | ⟨e | u, h₁⟩
    · exact ⟨es, _, s₁, stop_hangs host h s ht hrun, hwaits.congr (by simp)⟩
    · obtain ⟨hg₁, o, rfl⟩ := hleft _ _ rfl
      obtain ⟨es', r, s', hclean, hwaits'⟩ := cleanup_waits hr hg₁
      refine ⟨es ++ es', _, s', stop_forced host h s ht hrun hclean, hwaits.append ?_⟩
      simp only [Waits, learn_unmountCommand, learn_mnt, learn_timeouts] at hwaits'
      exact hwaits'.congr (by cases r <;> simp [Except.map])
    · exact ⟨es, _, s₁, stop_clean host h s ht hrun, hwaits.congr (by simp)⟩

theorem abandon_waits (host : ServiceHost σ) (hc : h.unmountCommand ≠ []) (s : σ) :
    ∃ es r s', Runs (h.abandon host.recorded) s es r s' ∧ h.Waits es r := by
  cases ht : h.state.isTerminal with
  | true => exact ⟨_, _, _, abandon_terminal host h s ht, .of_looks nofun nofun⟩
  | false =>
    rcases hx : host.unmount h .discarded
      (if h.ended = none then host.signal h.pid .kill s else s) with ⟨x, s'⟩
    have hkill : h.Waits (h.asks (.signalled h.pid .kill)) (.ok () : Except Stuck Unit) :=
      .of_looks nofun (isLook_asks rfl)
    exact ⟨_, _, s', abandon_runs host h s ht rfl hx hc,
      hkill.append (waits_unmountRequest .discarded hx (by split <;> simp [*]))⟩

theorem waitReady_waits (ht : host.Timely) (hi : 0 < h.timeouts.pollInterval.nanos)
    (hc : h.unmountCommand ≠ []) (s : σ) :
    ∃ es r s', Runs (h.waitReady host.recorded) s es r s' ∧ h.Waits es r := by
  cases hd : deadline? (host.now s) h.timeouts.mount with
  | none =>
    obtain ⟨es, r, s', ha, hwaits⟩ := abandon_waits host hc s
    obtain ⟨why, hwhy, hrun⟩ := waitReady_overflow host h s hd ha
    exact ⟨es, _, s', hrun, hwaits.congr (by simp [hwhy])⟩
  | some deadline =>
    obtain ⟨es, r, s', hr, hrun⟩ := waitReady_runs host h s hd
    have hdl := deadline_eq hd
    exact ⟨es, r, s', hrun, .of_looks (hr.ends ht hi (by omega) (by omega)) hr.isLook⟩

end ServiceHandle

namespace ServiceLauncher

variable (v : Variant) (dirs : ServiceDirs)

/-- A start is left waiting exactly if it tears its service down and the unmount command never
ends. -/
theorem start_waits (hr : host.Reliable child) (ht : host.Timely) {c : Config}
    (hc : c.validate = .ok ()) (s : σ) :
    ∃ es r s', Runs ((ofConfig c).start host.recorded v dirs) s es r s' ∧
      Waits c.service.unmountCommand dirs.mnt c.timeouts es r := by
  obtain ⟨es, r, s₁, hcase, hlaunch⟩ := launch_runs host s (ofConfig c) v dirs
  cases hcase with
  | refused he =>
    refine ⟨es, _, s₁, hlaunch.bind_last (.pure _ s₁), .of_looks nofun ?_⟩
    rcases he with rfl | rfl | ⟨cmd, x, rfl⟩ <;> simp [Event.isLook]
  | @started options program args pid s₀ _ ho hcmd hs =>
    set h : ServiceHandle :=
      { pid, src := dirs.src, mnt := dirs.mnt, cacheTimeout := options.cacheTimeout
        unmountCommand := (ofConfig c).service.unmountCommand, timeouts := (ofConfig c).timeouts }
      with hh
    have hlooks : h.Waits
        [.changedFiles, .spawned ((ofConfig c).command program args) .captured (.ok pid)]
        (.ok () : Except Stuck Unit) := .of_looks nofun (by simp [Event.isLook])
    obtain ⟨ws, r, s₂, hwait, hwaits⟩ := ServiceHandle.waitReady_waits (h := h) ht
      (Config.pollInterval_of_validate hc) (Config.validate_eq_ok_iff.mp hc).unmountCommand s₁
    rcases r with why | ⟨e | u, h₁⟩
    · exact ⟨_, _, s₂, start_settled host s _ v dirs hlaunch
        (ServiceHandle.settle_hangs host h s₁ hwait),
        hlooks.append (hwaits.congr (by simp [Except.map]))⟩
    · obtain ⟨deadline, ws', hready, hwait'⟩ := ServiceHandle.waitReady_returns host h
        ((ServiceHandle.waitReady_mirrors host h).run_eq hwait)
      obtain ⟨o, rfl, -, hg⟩ :=
        ServiceHandle.readies_quiet hr rfl hready (hr.spawned hs) rfl
      obtain ⟨cs, r, s', hclean, hwaits'⟩ := ServiceHandle.cleanup_waits hr hg
      refine ⟨_, _, s', start_settled host s _ v dirs hlaunch
        (ServiceHandle.settle_failed host h s₁ hwait hclean), hlooks.append (hwaits.append ?_)⟩
      simp only [ServiceHandle.Waits, ServiceHandle.learn_unmountCommand, ServiceHandle.learn_mnt,
        ServiceHandle.learn_timeouts] at hwaits'
      exact hwaits'.congr (by cases r <;> simp [Except.map])
    · exact ⟨_, _, s₂, start_settled host s _ v dirs hlaunch
        (ServiceHandle.settle_ready host h s₁ hwait),
        hlooks.append (hwaits.congr (by simp [Except.map]))⟩

end ServiceLauncher

/-- On a machine whose processes end by `SIGKILL`, a start or a teardown comes to its end unless
the unmount command that it runs never does: that wait alone has no limit. The wait for the mount
has a deadline, and each wait for the process a timeout, if it does not come after `SIGKILL`. A
service that has been started is one that this is about. -/
theorem waiting_iff_unmount_endless (hr : host.Reliable child) :
    (∀ (h : ServiceHandle) s, h.Guards child s →
      ∃ es r s', Runs (h.stop host.recorded) s es r s' ∧ (h.stop host).run s = (r, s') ∧
        h.Waits es r) ∧
    (∀ (h : ServiceHandle) s, h.Guards child s →
      ∃ es r s', Runs (h.cleanup host.recorded) s es r s' ∧ (h.cleanup host).run s = (r, s') ∧
        h.Waits es r) ∧
    (host.Timely → ∀ c : Config, c.validate = .ok () → ∀ v dirs s, ∃ es r s',
      Runs ((ServiceLauncher.ofConfig c).start host.recorded v dirs) s es r s' ∧
      ((ServiceLauncher.ofConfig c).start host v dirs).run s = (r, s') ∧
      Waits c.service.unmountCommand dirs.mnt c.timeouts es r ∧
      ∀ h, r = .ok (.ok h) → h.Guards child s') := by
  refine ⟨fun h s hg ↦ ?_, fun h s hg ↦ ?_, fun ht c hc v dirs s ↦ ?_⟩
  · obtain ⟨es, r, s', hrun, hwaits⟩ := ServiceHandle.stop_waits hr hg
    exact ⟨es, r, s', hrun, (ServiceHandle.stop_mirrors host h).run_eq hrun, hwaits⟩
  · obtain ⟨es, r, s', hrun, hwaits⟩ := ServiceHandle.cleanup_waits hr hg
    exact ⟨es, r, s', hrun, (ServiceHandle.cleanup_mirrors host h).run_eq hrun, hwaits⟩
  · obtain ⟨es, r, s', hrun, hwaits⟩ := ServiceLauncher.start_waits v dirs hr ht hc s
    have hstart := (ServiceLauncher.start_mirrors host (.ofConfig c) v dirs).run_eq hrun
    refine ⟨es, r, s', hrun, hstart, hwaits, fun h hok ↦ ?_⟩
    rw [hok] at hstart
    exact (ServiceLauncher.start_guards hr hstart).2

/-- A ward whose process mounts nothing and does not obey, and whose unmount command never ends. -/
def Ward.clinging : ServiceHost Ward := Ward.host { mounted := false } (fun w ↦ (.never, w)) id

/-- A configuration that allows no more than a nanosecond for the mount. -/
def Config.hasty : Config :=
  { matrix := [], falsePositives := [], timeouts := { mount := ⟨1⟩, pollInterval := ⟨1⟩ } }

def Command.umount : Command := { program := Bytes.ofString "umount", args := [[]] }

/-- An unmount command that never ends holds up teardowns of both kinds, and a start whose mount
does not come up. -/
theorem endless_unmount_awaited :
    Ward.clinging.Reliable (fun _ _ ↦ True) ∧ Ward.clinging.Timely ∧
      Config.hasty.validate = .ok () ∧
      (∃ es s' k, Runs (ServiceHandle.sample.stop Ward.clinging.recorded) { mounted := true } es
        (.error .waiting) s' ∧ .executed Command.umount k .never ∈ es) ∧
      (∃ es s' k, Runs (ServiceHandle.sample.cleanup Ward.clinging.recorded) { mounted := true } es
        (.error .waiting) s' ∧ .executed Command.umount k .never ∈ es) ∧
      ∃ es s' c k, Runs ((ServiceLauncher.ofConfig Config.hasty).start Ward.clinging.recorded ⟨[]⟩
        ⟨[], [], []⟩) { mounted := false } es (.error .waiting) s' ∧ .executed c k .never ∈ es := by
  have hr : Ward.clinging.Reliable fun _ _ ↦ True := Ward.host_reliable _ _ _
  have ht : Ward.clinging.Timely := Ward.host_timely _ _ _
  have hc : Config.hasty.validate = .ok () := rfl
  have hcommand {α : Type} {es : List Event} {r : Except Stuck α}
      (hw : ServiceHandle.sample.Waits es r) (hwait : r = .error .waiting) :
      ∃ k, .executed Command.umount k .never ∈ es := by
    obtain ⟨c, k, hx⟩ := hw.waiting_iff.mp hwait
    obtain ⟨program, args, hcmd, rfl⟩ := hw.commands hx
    cases hcmd
    exact ⟨k, hx⟩
  obtain ⟨hstop, hcleanup, hstart⟩ := waiting_iff_unmount_endless hr
  refine ⟨hr, ht, hc, ?_, ?_, ?_⟩
  · obtain ⟨es, r, s', hrun, hres, hw⟩ :=
      hstop ServiceHandle.sample { mounted := true } fun _ ↦ trivial
    obtain rfl : .error .waiting = r := congrArg Prod.fst hres
    obtain ⟨k, hx⟩ := hcommand hw rfl
    exact ⟨es, s', k, hrun, hx⟩
  · obtain ⟨es, r, s', hrun, hres, hw⟩ :=
      hcleanup ServiceHandle.sample { mounted := true } fun _ ↦ trivial
    obtain rfl : .error .waiting = r := congrArg Prod.fst hres
    obtain ⟨k, hx⟩ := hcommand hw rfl
    exact ⟨es, s', k, hrun, hx⟩
  · obtain ⟨es, r, s', hrun, hres, hw, -⟩ := hstart ht Config.hasty hc ⟨[]⟩ ⟨[], [], []⟩
      { mounted := false }
    obtain rfl : .error .waiting = r := congrArg Prod.fst hres
    obtain ⟨c, k, hx⟩ := hw.waiting_iff.mp rfl
    exact ⟨es, s', c, k, hrun, hx⟩

end MountSweep
