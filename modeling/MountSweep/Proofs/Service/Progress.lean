import MountSweep.Proofs.Service.Teardown

namespace MountSweep

open Posix Time

variable {σ α β : Type}

def Act.Ends (a : Act σ α) (s : σ) : Prop := (a.run s).1 ≠ .error .waiting

namespace Act

theorem ends_of_run {a : Act σ α} {s s' : σ} {r : Except Stuck α} (h : a.run s = (r, s'))
    (hr : r ≠ .error .waiting) : a.Ends s := by
  unfold Ends
  rwa [h]

theorem ends_pure (x : α) (s : σ) : (pure x : Act σ α).Ends s := ends_of_run rfl nofun

theorem ends_ask (f : σ → α × σ) (s : σ) : (ask f).Ends s := ends_of_run rfl nofun

theorem ends_tell (f : σ → σ) (s : σ) : (tell f).Ends s := ends_of_run rfl nofun

theorem Ends.bind {a : Act σ α} {f : α → Act σ β} {s : σ} (ha : a.Ends s)
    (hf : ∀ x s', a.run s = (.ok x, s') → (f x).Ends s') : (a >>= f).Ends s := by
  unfold Ends
  rw [run_bind]
  rcases hr : a.run s with ⟨why | x, s'⟩
  · intro hw
    cases hw
    exact ha (by rw [hr])
  · exact hf x s' hr

theorem Ends.of_bind {a : Act σ α} {f : α → Act σ β} {s : σ} (h : (a >>= f).Ends s) :
    a.Ends s := by
  intro hw
  refine h ?_
  rw [run_bind]
  rcases hr : a.run s with ⟨why | x, s'⟩
  · rw [hr] at hw
    cases hw
    rfl
  · rw [hr] at hw
    cases hw

theorem Ends.of_bind_ok {a : Act σ α} {f : α → Act σ β} {s s' : σ} {x : α}
    (h : (a >>= f).Ends s) (ha : a.run s = (.ok x, s')) : (f x).Ends s' := by
  unfold Ends at h
  rwa [run_bind, ha] at h

theorem Ends.lastly {f : σ → σ} {a : Act σ α} {s : σ} (h : a.Ends s) : (lastly f a).Ends s := by
  unfold Ends at h ⊢
  rw [run_lastly]
  rcases hr : a.run s with ⟨⟨_ | _⟩ | x, s'⟩
  · rw [hr] at h
    exact absurd rfl h
  · exact nofun
  · exact nofun

end Act

variable {host : ServiceHost σ} {child : Pid → σ → Prop} {h : ServiceHandle} {s s' : σ}

theorem Readies.ends (ht : host.Timely) (hp : 0 < h.timeouts.pollInterval.nanos)
    {deadline n : ℕ} {es : List Event} {r : Except Stuck (Except SetupError Unit × ServiceHandle)}
    (hr : Readies host h deadline n s es r s') (hn : deadline < host.now s + n) (hpos : 0 < n) :
    r ≠ .error .waiting := by
  induction hr with
  | exhausted s => omega
  | mounted | unreadable | ended | late => exact nofun
  | @again n s s₁ s₂ s' es r hm hl hd hr ih =>
    have h₁ := ht.probed hm
    have h₂ : host.now s₁ ≤ host.now s₂ := by
      cases he : h.ended with
      | some st =>
        rw [ServiceHandle.look_some he] at hl
        cases hl
      | none => exact ht.polled ((ServiceHandle.look_none he s₁).symm.trans hl)
    have h₃ := ht.slept (d := h.timeouts.pollInterval) (s := s₂)
    -- the deadline still lies ahead, so there are rounds left
    exact ih (by omega) (by omega)

namespace ServiceHandle

theorem abandon_ends (hx : host.CommandsEnd) (s : σ) : (h.abandon host).Ends s := by
  unfold abandon
  split
  · exact Act.ends_pure _ _
  · refine Act.Ends.bind ?_ fun _ s₁ _ ↦ ?_
    · unfold signal
      split
      · exact Act.ends_tell _ _
      · exact Act.ends_pure _ _
    cases h.unmountCommand with
    | nil => exact Act.ends_pure _ _
    | cons program args =>
      refine (Act.ends_ask _ _).bind fun x s₂ hrun ↦ ?_
      have hne := hx (unmountCommandOf program args h.mnt) .discarded s₁
      rw [Act.run_ask] at hrun
      cases hrun
      split
      · exact absurd ‹_› hne
      · exact Act.ends_pure _ _

theorem deadline_eq {now deadline : ℕ} {d : Span} (hd : deadline? now d = some deadline) :
    deadline = now + d.nanos := by
  unfold deadline? at hd
  split at hd
  · exact (Option.some.inj hd).symm
  · cases hd

theorem waitReady_ends (ht : host.Timely) (hx : host.CommandsEnd)
    (hp : 0 < h.timeouts.pollInterval.nanos) (s : σ) : (h.waitReady host).Ends s := by
  cases hd : deadline? (host.now s) h.timeouts.mount with
  | none =>
    refine Act.Ends.bind (Act.ends_of_run rfl nofun) fun x s' hget ↦ ?_
    cases hget
    rw [hd]
    exact (abandon_ends hx s).bind fun _ _ _ ↦ Act.ends_of_run rfl nofun
  | some deadline =>
    obtain ⟨es, r, s', hr, hrun⟩ := waitReady_runs host h s hd
    have hdl := deadline_eq hd
    exact Act.ends_of_run ((waitReady_mirrors host h).run_eq hrun)
      (hr.ends ht hp (by omega) (by omega))

theorem cleanup_ends (hr : host.Reliable child) (hx : host.CommandsEnd)
    (hn : h.state.isTerminal = false) (hg : h.Guards child s) : (h.cleanup host).Ends s := by
  obtain ⟨es, h', st, s', hrun, -⟩ := cleanup_reaps hr hx hn hg
  exact Act.ends_of_run ((cleanup_mirrors host h).run_eq hrun) nofun

theorem stop_ends (hr : host.Reliable child) (hx : host.CommandsEnd)
    (hn : h.state.isTerminal = false) (hg : h.Guards child s) : (h.stop host).Ends s := by
  obtain ⟨es, v, h', st, s', hrun, -⟩ := stop_judges hr hx hn hg
  exact Act.ends_of_run ((stop_mirrors host h).run_eq hrun) nofun

end ServiceHandle

namespace ServiceLauncher

variable {l : ServiceLauncher} {v : Variant} {dirs : ServiceDirs}

theorem launch_timeouts (hl : (l.launch host v dirs).run s = (.ok (.ok h), s')) :
    h.timeouts = l.timeouts := by
  obtain ⟨es, hc, -⟩ := launch_returns host l v dirs hl
  cases hc
  rfl

/-- A start on a machine whose clock goes on comes to an end, unless the clock cannot express its
deadline. -/
theorem start_ends (hr : host.Reliable child) (ht : host.Timely) (hx : host.CommandsEnd)
    (hp : 0 < l.timeouts.pollInterval.nanos) (s : σ) : (l.start host v dirs).Ends s := by
  obtain ⟨es, r, s₁, -, hrun⟩ := launch_runs host s l v dirs
  have hlaunch := (launch_mirrors host l v dirs).run_eq hrun
  refine (Act.ends_of_run hlaunch nofun).bind fun r s₁ hl ↦ ?_
  cases r with
  | error e => exact Act.ends_pure _ _
  | ok h =>
    obtain ⟨ls, hlrun, he, hstate, hc, -⟩ := launch_quiet hr hl
    have hp' : 0 < h.timeouts.pollInterval.nanos := by rwa [launch_timeouts hl]
    refine Act.Ends.bind ?_ fun x s₂ _ ↦ ?_
    · refine (ServiceHandle.waitReady_ends ht hx hp' s₁).bind fun x s₂ hw ↦ ?_
      obtain ⟨e | u, h₁⟩ := x
      · obtain ⟨deadline, ws, hready, -⟩ := ServiceHandle.waitReady_returns host h hw
        obtain ⟨o, rfl, -, hg⟩ := ServiceHandle.readies_quiet hr he hready hc rfl
        exact (ServiceHandle.cleanup_ends hr hx (by simp [hstate, ServiceState.isTerminal])
          hg).bind fun _ _ _ ↦ Act.ends_pure _ _
      · exact Act.ends_pure _ _
    · obtain ⟨e | u, h₁⟩ := x <;> exact Act.ends_pure _ _

end ServiceLauncher

end MountSweep
