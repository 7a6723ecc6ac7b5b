import MountSweep.Proofs.Service.Progress

namespace MountSweep

open Posix Time

variable {σ : Type}

namespace Act

variable {α β : Type}

/-- Whatever the state, no deadline of the requests lies beyond the end of the clock. -/
def Fits (a : Act σ α) : Prop := ∀ s s', a.run s ≠ (.error .overflow, s')

variable {a : Act σ α} {f : α → Act σ β} {s s' : σ}

theorem fits_pure (x : α) : (pure x : Act σ α).Fits := nofun

theorem fits_ask (f : σ → α × σ) : (ask f).Fits := nofun

theorem fits_tell (f : σ → σ) : (tell f).Fits := nofun

theorem fits_get : (get : Act σ σ).Fits := nofun

theorem fits_wait : (stick .waiting : Act σ α).Fits := nofun

theorem run_bind_eq_overflow : (a >>= f).run s = (.error .overflow, s') ↔
    a.run s = (.error .overflow, s') ∨
      ∃ x s₁, a.run s = (.ok x, s₁) ∧ (f x).run s₁ = (.error .overflow, s') := by
  rw [run_bind]
  rcases a.run s with ⟨why | x, s₁⟩ <;> simp [and_assoc]

theorem Fits.run_bind_eq_overflow (ha : a.Fits) : (a >>= f).run s = (.error .overflow, s') ↔
    ∃ x s₁, a.run s = (.ok x, s₁) ∧ (f x).run s₁ = (.error .overflow, s') := by
  rw [Act.run_bind_eq_overflow, or_iff_right (ha s s')]

theorem run_bind_eq_overflow_of_fits (hf : ∀ x, (f x).Fits) :
    (a >>= f).run s = (.error .overflow, s') ↔ a.run s = (.error .overflow, s') := by
  rw [Act.run_bind_eq_overflow, or_iff_left]
  rintro ⟨x, s₁, -, h⟩
  exact hf x s₁ s' h

theorem Fits.bind (ha : a.Fits) (hf : ∀ x, (f x).Fits) : (a >>= f).Fits := fun s s' h ↦
  ha s s' ((run_bind_eq_overflow_of_fits hf).mp h)

theorem Fits.lastly {g : σ → σ} (ha : a.Fits) : (Act.lastly g a).Fits := by
  intro s s' h
  have hne : (.error .overflow : Except Stuck α) ≠ .error .waiting := nofun
  obtain ⟨s₁, h, -⟩ := (run_lastly_eq_iff hne).mp h
  exact ha s s₁ h

end Act

open Act

variable {host : ServiceHost σ} {h : ServiceHandle} {s s' : σ}

theorem deadline?_eq_none_iff {now : ℕ} {d : Span} :
    deadline? now d = none ↔ clockEnd ≤ now + d.nanos := by
  simp [deadline?]

theorem runUnmount_fits (command : List String) (path : Path) (quiet : Bool) :
    (runUnmount host command path quiet).Fits := by
  unfold runUnmount
  cases command with
  | nil => exact fits_pure _
  | cons program args =>
    refine (fits_ask _).bind fun x ↦ ?_
    cases x with
    | refused e => exact fits_pure _
    | ended st => dsimp only; split <;> exact fits_pure _
    | never => exact fits_wait

namespace ServiceHandle

theorem poll_fits : (h.poll host).Fits := by
  unfold poll
  split
  · exact fits_pure _
  · refine (fits_ask _).bind fun x ↦ ?_
    split <;> exact fits_pure _

theorem await_fits (limit : Option Span) : (h.await host limit).Fits := by
  unfold await
  split
  · exact fits_pure _
  · refine (fits_ask _).bind fun x ↦ ?_
    split <;> exact fits_pure _

theorem signal_fits (g : Signal) : (h.signal host g).Fits := by
  unfold signal
  split
  · exact fits_tell _
  · exact fits_pure _

theorem kill_fits : (h.kill host).Fits := by
  refine (signal_fits _).bind fun _ ↦ (await_fits _).bind fun x ↦ ?_
  obtain ⟨awaited, h'⟩ := x
  cases awaited with
  | running => exact fits_wait
  | ended st | failed e => exact fits_pure _

theorem reclaim_fits : (h.reclaim host).Fits := by
  refine poll_fits.bind fun x ↦ ?_
  obtain ⟨polled, h'⟩ := x
  dsimp only
  split
  · exact fits_pure _
  · refine (signal_fits _).bind fun _ ↦ (await_fits _).bind fun y ↦ ?_
    obtain ⟨awaited, h''⟩ := y
    cases awaited with
    | running => exact kill_fits
    | ended st | failed e => exact fits_pure _

theorem cleanup_fits : (h.cleanup host).Fits := by
  unfold cleanup
  split
  · exact fits_pure _
  · exact (runUnmount_fits _ _ _).bind fun _ ↦ reclaim_fits

theorem unmount_fits : (h.unmount host).Fits := by
  refine (runUnmount_fits _ _ _).bind fun x ↦ ?_
  cases x with
  | error e => exact fits_pure _
  | ok u =>
    refine (fits_ask _).bind fun mounted ↦ ?_
    dsimp only
    split
    · exact fits_pure _
    · refine (await_fits _).bind fun y ↦ ?_
      obtain ⟨awaited, h'⟩ := y
      cases awaited with
      | running | failed e => exact fits_pure _
      | ended st => dsimp only; split <;> exact fits_pure _

theorem stop_fits : (h.stop host).Fits := by
  unfold stop
  split
  · exact fits_pure _
  · refine unmount_fits.bind fun x ↦ ?_
    obtain ⟨e | u, h'⟩ := x
    · exact cleanup_fits.bind fun _ ↦ fits_pure _
    · exact fits_pure _

theorem abandon_fits : (h.abandon host).Fits := by
  unfold abandon
  split
  · exact fits_pure _
  · refine (signal_fits _).bind fun _ ↦ ?_
    split
    · exact fits_pure _
    · refine (fits_ask _).bind fun x ↦ ?_
      split
      · exact fits_wait
      · exact fits_pure _

theorem waitReadyFor_fits (deadline rounds : ℕ) : (h.waitReadyFor host deadline rounds).Fits := by
  induction rounds generalizing h with
  | zero => exact fits_wait
  | succ rounds ih =>
    refine (fits_ask _).bind fun mounted ↦ ?_
    dsimp only
    split
    · exact fits_pure _
    refine poll_fits.bind fun x ↦ ?_
    obtain ⟨polled, h'⟩ := x
    dsimp only
    split
    · exact fits_pure _
    · exact fits_pure _
    · refine fits_get.bind fun s ↦ ?_
      split
      · exact fits_pure _
      · exact (fits_tell _).bind fun _ ↦ ih

theorem waitReady_run (host : ServiceHost σ) (h : ServiceHandle) (s : σ) :
    (h.waitReady host).run s =
      Act.run (match deadline? (host.now s) h.timeouts.mount with
        | none => do
          h.abandon host
          stick .overflow
        | some deadline => waitReadyFor host deadline (h.timeouts.mount.nanos + 2) h) s := rfl

/-- A wait for the mount has no deadline if it would lie beyond the end of the clock; the service is
then given up. -/
theorem waitReady_eq_overflow_iff : (h.waitReady host).run s = (.error .overflow, s') ↔
    clockEnd ≤ host.now s + h.timeouts.mount.nanos ∧ (h.abandon host).run s = (.ok (), s') := by
  rw [waitReady_run, ← deadline?_eq_none_iff]
  cases deadline? (host.now s) h.timeouts.mount with
  | none => simp [abandon_fits.run_bind_eq_overflow, Unique.exists_iff]
  | some deadline => simpa using waitReadyFor_fits deadline _ s s'

theorem waitReady_ne_ok {r : Except SetupError Unit × ServiceHandle}
    (hend : clockEnd ≤ host.now s + h.timeouts.mount.nanos) :
    (h.waitReady host).run s ≠ (.ok r, s') := by
  rw [waitReady_run, deadline?_eq_none_iff.mpr hend, ne_eq, run_bind_eq_ok]
  simp

theorem settle_eq_overflow_iff : (h.settle host).run s = (.error .overflow, s') ↔
    (h.waitReady host).run s = (.error .overflow, s') := by
  refine run_bind_eq_overflow_of_fits fun x ↦ ?_
  obtain ⟨e | u, h'⟩ := x
  · exact cleanup_fits.bind fun _ ↦ fits_pure _
  · exact fits_pure _

end ServiceHandle

namespace ServiceLauncher

variable {l : ServiceLauncher} {v : Variant} {dirs : ServiceDirs}

theorem launch_fits : (l.launch host v dirs).Fits := by
  unfold launch
  split
  · exact fits_pure _
  · refine (fits_ask _).bind fun prepared ↦ ?_
    split
    · exact fits_pure _
    · split
      · exact fits_pure _
      · exact fits_pure _
      · refine (fits_ask _).bind fun spawned ↦ ?_
        split <;> exact fits_pure _

/-- A start without a deadline for its mount is one that has launched its process and then given
it up. -/
theorem start_eq_overflow_iff : (l.start host v dirs).run s = (.error .overflow, s') ↔
    ∃ h s₁, (l.launch host v dirs).run s = (.ok (.ok h), s₁) ∧
      clockEnd ≤ host.now s₁ + l.timeouts.mount.nanos ∧ (h.abandon host).run s₁ = (.ok (), s') := by
  rw [start, launch_fits.run_bind_eq_overflow]
  constructor
  · rintro ⟨e | h, s₁, hl, hs⟩
    · cases hs
    · rw [run_bind_eq_overflow_of_fits fun x ↦ ?_, ServiceHandle.settle_eq_overflow_iff,
        ServiceHandle.waitReady_eq_overflow_iff, launch_timeouts hl] at hs
      · exact ⟨h, s₁, hl, hs⟩
      · obtain ⟨e | u, h'⟩ := x <;> exact fits_pure _
  · rintro ⟨h, s₁, hl, hs⟩
    rw [← launch_timeouts hl, ← ServiceHandle.waitReady_eq_overflow_iff,
      ← ServiceHandle.settle_eq_overflow_iff] at hs
    exact ⟨.ok h, s₁, hl, Act.run_bind_eq_overflow.mpr (.inl hs)⟩

theorem start_overflows {s₁ s₂ : σ} {ls as : List Event}
    (hl : Runs (l.launch host.recorded v dirs) s ls (.ok (.ok h)) s₁)
    (hend : clockEnd ≤ host.now s₁ + l.timeouts.mount.nanos)
    (ha : Runs (h.abandon host.recorded) s₁ as (.ok ()) s₂) :
    Runs (l.start host.recorded v dirs) s (ls ++ as) (.error .overflow) s₂ := by
  intro log
  rw [← List.append_assoc]
  exact start_eq_overflow_iff.mpr ⟨h, _, hl log, hend, ha (log ++ ls)⟩

theorem start_ne_ok (hl : clockEnd ≤ l.timeouts.mount.nanos) :
    (l.start host v dirs).run s ≠ (.ok (.ok h), s') := by
  intro hs
  obtain ⟨r, s₁, hlaunch, hs⟩ := run_bind_eq_ok.mp hs
  obtain e | h₁ := r
  · cases hs
  · obtain ⟨x, s₂, hsettle, -⟩ := run_bind_eq_ok.mp hs
    obtain ⟨ready, s₃, hready, -⟩ := run_bind_eq_ok.mp hsettle
    rw [← launch_timeouts hlaunch] at hl
    exact ServiceHandle.waitReady_ne_ok (by omega) hready

end ServiceLauncher

end MountSweep
