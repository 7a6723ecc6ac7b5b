import MountSweep.Proofs.Service.Simulation

namespace MountSweep

open Posix Time

variable {σ α : Type} (host : ServiceHost σ)

theorem forall_mem_log {log : List Event} {e : Event} (h : ∀ x ∈ log, x.OfService)
    (he : e.ofSweep = false) : ∀ x ∈ log ++ [e], x.OfService :=
  List.forall_mem_append.mpr ⟨h, List.forall_mem_singleton.mpr he⟩

/-- A recorded machine answers like the machine that it records, and a service makes no requests of
a sweep. -/
theorem ServiceHost.recorded_matches :
    host.recorded.Matches host fun p s ↦ p.1 = s ∧ ∀ e ∈ p.2, e.OfService where
  now h := congrArg _ h.1
  files h := congrArg _ h.1
  slept _ := fun ⟨h, hp⟩ ↦ ⟨congrArg _ h, forall_mem_log hp rfl⟩
  changed _ := fun ⟨h, hp⟩ ↦ ⟨congrArg _ h, forall_mem_log hp rfl⟩
  signalled _ _ := fun ⟨h, hp⟩ ↦ ⟨congrArg _ h, forall_mem_log hp rfl⟩
  probed _ := fun ⟨h, hp⟩ ↦ h ▸ ⟨rfl, rfl, forall_mem_log hp rfl⟩
  spawned _ _ := fun ⟨h, hp⟩ ↦ h ▸ ⟨rfl, rfl, forall_mem_log hp rfl⟩
  polled _ := fun ⟨h, hp⟩ ↦ h ▸ ⟨rfl, rfl, forall_mem_log hp rfl⟩
  awaited _ _ := fun ⟨h, hp⟩ ↦ h ▸ ⟨rfl, rfl, forall_mem_log hp rfl⟩
  executed _ _ := fun ⟨h, hp⟩ ↦ h ▸ ⟨rfl, rfl, forall_mem_log hp rfl⟩

theorem ServiceHost.recorded_matches_recorded (log : List Event) :
    host.recorded.Matches host.recorded fun p q ↦ q = (p.1, log ++ p.2) := by
  refine ⟨?_, ?_, ?_, ?_⟩
  · constructor <;> intros <;> subst_vars <;> simp [recorded]
  all_goals
    intros
    subst_vars
    simp [recorded]

/-- What goes the same way on machines that answer alike goes the same way when it is recorded. -/
theorem Mirrors.of_alike (a : ∀ τ : Type, ServiceHost τ → Act τ α)
    (ha : ∀ {τ₁ τ₂ : Type} {host₁ : ServiceHost τ₁} {host₂ : ServiceHost τ₂} {R : τ₁ → τ₂ → Prop},
      host₁.Matches host₂ R → Act.Alike R Eq (a τ₁ host₁) (a τ₂ host₂)) :
    Mirrors Event.OfService (a _ host.recorded) (a _ host) := by
  intro s
  obtain ⟨hanswer, hstate, hes⟩ := ha host.recorded_matches (s, []) s ⟨rfl, nofun⟩
  refine ⟨((a _ host.recorded).run (s, [])).2.2, fun log ↦ ?_, hes⟩
  obtain ⟨hanswer', hstate'⟩ := ha (host.recorded_matches_recorded log) (s, []) (s, log) (by simp)
  rw [← hanswer.eq, ← hstate]
  exact Prod.ext hanswer'.eq.symm hstate'

namespace ServiceHandle

variable (h : ServiceHandle)

theorem cleanup_mirrors : Mirrors Event.OfService (h.cleanup host.recorded) (h.cleanup host) :=
  .of_alike host (fun _ host ↦ h.cleanup host) fun hR ↦ cleanup_alike hR.toTracks h

theorem stop_mirrors : Mirrors Event.OfService (h.stop host.recorded) (h.stop host) :=
  .of_alike host (fun _ host ↦ h.stop host) fun hR ↦ stop_alike hR.toTracks h

theorem abandon_mirrors : Mirrors Event.OfService (h.abandon host.recorded) (h.abandon host) :=
  .of_alike host (fun _ host ↦ h.abandon host) fun hR ↦ abandon_alike hR.toTracks h

theorem waitReady_mirrors :
    Mirrors Event.OfService (h.waitReady host.recorded) (h.waitReady host) :=
  .of_alike host (fun _ host ↦ h.waitReady host) fun hR ↦ waitReady_alike hR.toTracks h

/-- A wait for the mount that comes to an end is one for which the clock can express the
deadline. -/
theorem waitReady_returns {s s' : σ} {x : Except SetupError Unit × ServiceHandle}
    (hw : (h.waitReady host).run s = (.ok x, s')) :
    ∃ deadline es, Readies host h deadline (h.timeouts.mount.nanos + 2) s es (.ok x) s' ∧
      Runs (h.waitReady host.recorded) s es (.ok x) s' := by
  cases hd : deadline? (host.now s) h.timeouts.mount with
  | none =>
    obtain ⟨es, ha, -⟩ := abandon_mirrors host h s
    obtain ⟨why, -, hstuck⟩ := waitReady_overflow host h s hd ha
    rw [(waitReady_mirrors host h).run_eq hstuck] at hw
    cases hw
  | some deadline =>
    obtain ⟨es, r, s₁, hr, hrun⟩ := waitReady_runs host h s hd
    rw [(waitReady_mirrors host h).run_eq hrun] at hw
    cases hw
    exact ⟨deadline, es, hr, hrun⟩

theorem settle_mirrors : Mirrors Event.OfService (h.settle host.recorded) (h.settle host) :=
  .of_alike host (fun _ host ↦ h.settle host) fun hR ↦ settle_alike hR.toTracks h

end ServiceHandle

namespace ServiceLauncher

variable (l : ServiceLauncher) (v : Variant) (dirs : ServiceDirs)

theorem launch_mirrors :
    Mirrors Event.OfService (l.launch host.recorded v dirs) (l.launch host v dirs) :=
  .of_alike host (fun _ host ↦ l.launch host v dirs) fun hR ↦ launch_alike hR l v dirs

theorem launch_returns {s s' : σ} {h : ServiceHandle}
    (hl : (l.launch host v dirs).run s = (.ok (.ok h), s')) :
    ∃ es, Launches host l v dirs es (.ok h) s' ∧
      Runs (l.launch host.recorded v dirs) s es (.ok (.ok h)) s' := by
  obtain ⟨es, r, s₁, hc, hrun⟩ := launch_runs host s l v dirs
  rw [(launch_mirrors host l v dirs).run_eq hrun] at hl
  cases hl
  exact ⟨es, hc, hrun⟩

theorem start_returns {s s' : σ} {h : ServiceHandle}
    (hs : (l.start host v dirs).run s = (.ok (.ok h), s')) :
    ∃ h₀ s₁ h₁, (l.launch host v dirs).run s = (.ok (.ok h₀), s₁) ∧
      (h₀.waitReady host).run s₁ = (.ok (.ok (), h₁), s') ∧
      h = { h₁ with state := .active } := by
  obtain ⟨r, s₁, hl, hs⟩ := Act.run_bind_eq_ok.mp hs
  cases r with
  | error e => cases hs
  | ok h₀ =>
    obtain ⟨x, s₂, hset, hs⟩ := Act.run_bind_eq_ok.mp hs
    obtain ⟨⟨e | u, h₁⟩, s₃, hw, hset⟩ := Act.run_bind_eq_ok.mp hset
    · obtain ⟨h₂, s₄, -, hset⟩ := Act.run_bind_eq_ok.mp hset
      cases hset
      cases hs
    · cases hset
      cases hs
      exact ⟨h₀, s₁, h₁, hl, hw, rfl⟩

theorem start_mirrors :
    Mirrors Event.OfService (l.start host.recorded v dirs) (l.start host v dirs) :=
  .of_alike host (fun _ host ↦ l.start host v dirs) fun hR ↦ start_alike hR l v dirs

end ServiceLauncher

end MountSweep
