import MountSweep.Output.Stream

namespace MountSweep.Output

structure Reader where
  kept : Bytes := []
  finished : Bool := false
  deriving DecidableEq, Repr, Inhabited

def chunkSize : Nat := 8192

inductive CaptureEvent
  | chunk (s : Stream) (bs : Bytes)
  | finish (s : Stream)
  deriving DecidableEq, Repr

structure Capture where
  stdout : Reader := {}
  stderr : Reader := {}
  deriving DecidableEq, Repr, Inhabited

namespace Capture

def reader (c : Capture) : Stream → Reader
  | .stdout => c.stdout
  | .stderr => c.stderr

def change (c : Capture) (s : Stream) (f : Reader → Reader) : Capture :=
  match s with
  | .stdout => { c with stdout := f c.stdout }
  | .stderr => { c with stderr := f c.stderr }

@[simp] theorem reader_change (c : Capture) (s s' : Stream) (f : Reader → Reader) :
    (c.change s f).reader s' = if s' = s then f (c.reader s) else c.reader s' := by
  cases s <;> cases s' <;> rfl

/-- The capture after an event: a reader that is finished keeps nothing further. -/
def step (c : Capture) : CaptureEvent → Capture
  | .chunk s bs => c.change s fun r ↦ if r.finished then r else { r with kept := r.kept ++ bs }
  | .finish s => c.change s fun r ↦ { r with finished := true }

def after (c : Capture) (events : List CaptureEvent) : Capture :=
  events.foldl step c

def snapshot (c : Capture) : Captured :=
  ⟨c.stdout.kept, c.stderr.kept⟩

@[simp] theorem bytes_snapshot (c : Capture) (s : Stream) :
    c.snapshot.bytes s = (c.reader s).kept := by
  cases s <;> rfl

/-- The events of bytes that arrive on a stream, cut into chunks; `fuel` bounds their number. -/
def arrivals (s : Stream) : Nat → Bytes → List CaptureEvent
  | 0, _ => []
  | fuel + 1, bs =>
    if bs.isEmpty then []
    else .chunk s (bs.take chunkSize) :: arrivals s fuel (bs.drop chunkSize)

def receive (c : Capture) (s : Stream) (bs : Bytes) : Capture :=
  c.after (arrivals s bs.length bs)

def close (c : Capture) : Capture :=
  c.after [.finish .stdout, .finish .stderr]

end Capture

end MountSweep.Output
