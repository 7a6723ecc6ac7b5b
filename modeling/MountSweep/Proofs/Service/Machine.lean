import MountSweep.Service.Host
import MountSweep.Service.Launcher

namespace MountSweep

open Posix Time

/-- What a parent may count on; `child pid s` says that in state `s` the process is a child whose
end has not been found yet. -/
structure ServiceHost.Reliable {σ : Type} (host : ServiceHost σ) (child : Pid → σ → Prop) :
    Prop where
  spawned {c : Command} {k : Sink} {pid : Pid} {s s' : σ} :
    host.spawn c k s = (.ok pid, s') → child pid s'
  slept {d : Span} {pid : Pid} {s : σ} : child pid s → child pid (host.sleep d s)
  probed {p : Path} {m : Bool} {pid : Pid} {s s' : σ} :
    host.isMounted p s = (m, s') → child pid s → child pid s'
  executed {c : Command} {k : Sink} {x : Execution} {pid : Pid} {s s' : σ} :
    host.execute c k s = (x, s') → child pid s → child pid s'
  signalled {q : Pid} {g : Signal} {pid : Pid} {s : σ} :
    child pid s → child pid (host.signal q g s)
  polled {r : Except SystemError (Option Status)} {pid : Pid} {s s' : σ} :
    host.poll pid s = (r, s') → child pid s →
      (∃ st, r = .ok (some st)) ∨ (r = .ok none ∧ child pid s')
  awaited {limit : Option Span} {a : Awaited} {pid : Pid} {s s' : σ} :
    host.await pid limit s = (a, s') → child pid s →
      (∃ st, a = .ended st) ∨ (a = .running ∧ child pid s')
  killed {a : Awaited} {pid : Pid} {s s' : σ} :
    host.await pid none (host.signal pid .kill s) = (a, s') → child pid s → ∃ st, a = .ended st

/-- Time goes on while the mount is waited for, and a sleep takes as long as it should. -/
structure ServiceHost.Timely {σ : Type} (host : ServiceHost σ) : Prop where
  slept {d : Span} {s : σ} : host.now s + d.nanos ≤ host.now (host.sleep d s)
  probed {p : Path} {m : Bool} {s s' : σ} : host.isMounted p s = (m, s') → host.now s ≤ host.now s'
  polled {pid : Pid} {r : Except SystemError (Option Status)} {s s' : σ} :
    host.poll pid s = (r, s') → host.now s ≤ host.now s'

def ServiceHost.CommandsEnd {σ : Type} (host : ServiceHost σ) : Prop :=
  ∀ c k s, (host.execute c k s).1 ≠ .never

/-- One process and one mount, with a clock and some files. -/
structure Ward where
  mounted : Bool
  ended : Option Status := none
  clock : Nat := 0
  files : FileSystem :=
    { inodes := [(1, ⟨.dir [] 1, 0o755, 0, 0, 1, 1, 0, 0, 0⟩)], next := 2, cwd := 1 }

namespace Ward

def awaited (w : Ward) : Awaited :=
  match w.ended with
  | some st => .ended st
  | none => .running

def kill (w : Ward) : Ward :=
  { w with ended := some (w.ended.getD (.signaled .kill)) }

/-- A ward as a machine: what it is when its process has been started, what the unmount command
does, and what `SIGTERM` does. -/
def host (born : Ward) (unmount : Ward → Execution × Ward) (terminate : Ward → Ward) :
    ServiceHost Ward where
  now w := w.clock
  sleep d w := { w with clock := w.clock + d.nanos }
  files w := w.files
  setFiles files w := { w with files }
  isMounted _ w := (w.mounted, w)
  spawn _ _ w := (.ok 1, { born with clock := w.clock, files := w.files })
  poll _ w := (.ok w.ended, w)
  await _ _ w := (w.awaited, w)
  signal _ g w := if g = .kill then w.kill else terminate w
  execute _ _ w := unmount w

theorem host_reliable (born : Ward) (unmount : Ward → Execution × Ward) (terminate : Ward → Ward) :
    (host born unmount terminate).Reliable fun _ _ ↦ True where
  spawned _ := trivial
  slept _ := trivial
  probed _ _ := trivial
  executed _ _ := trivial
  signalled _ := trivial
  polled {r pid s s'} h _ := by
    cases h
    cases he : s.ended with
    | none => exact .inr ⟨rfl, trivial⟩
    | some st => exact .inl ⟨st, rfl⟩
  awaited {limit a pid s s'} h _ := by
    cases h
    unfold awaited
    cases he : s.ended with
    | none => exact .inr ⟨rfl, trivial⟩
    | some st => exact .inl ⟨st, rfl⟩
  killed {a pid s s'} h _ := by
    cases h
    exact ⟨s.ended.getD (.signaled .kill), by simp [host, awaited, kill]⟩

theorem host_timely (born : Ward) (unmount : Ward → Execution × Ward) (terminate : Ward → Ward) :
    (host born unmount terminate).Timely where
  slept := Nat.le_refl _
  probed h := by
    cases h
    exact Nat.le_refl _
  polled h := by
    cases h
    exact Nat.le_refl _

theorem host_commandsEnd {born : Ward} {unmount : Ward → Execution × Ward} {terminate : Ward → Ward}
    (hu : ∀ w, (unmount w).1 ≠ .never) : (host born unmount terminate).CommandsEnd :=
  fun _ _ w ↦ hu w

def launcher : ServiceLauncher := .ofConfig { timeouts := { mount := .ofSecs 0 } }

/-- A ward whose process mounts at once and ends when it is unmounted. -/
def obedient : ServiceHost Ward :=
  host { mounted := true }
    (fun w ↦ (.ended (.exited 0), { w with mounted := false, ended := some (.exited 0) })) id

/-- A ward whose process mounts and crashes, and whose unmount command fails. -/
def crashed : ServiceHost Ward :=
  host { mounted := true, ended := some (.exited 3) } (fun w ↦ (.ended (.exited 1), w)) id

/-- A ward whose unmount command succeeds, and whose process never mounts anything and does not
obey `SIGTERM`. -/
def stubborn : ServiceHost Ward :=
  host { mounted := false } (fun w ↦ (.ended (.exited 0), { w with mounted := false })) id

end Ward

end MountSweep
