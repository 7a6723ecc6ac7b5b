namespace MountSweep.Time

structure Span where
  nanos : Nat
  deriving DecidableEq, Repr, Inhabited

namespace Span

def nanosPerSec : Nat := 1000000000

def ofSecs (n : Nat) : Span := ⟨n * nanosPerSec⟩

def ofMillis (n : Nat) : Span := ⟨n * 1000000⟩

def ofParts (secs nanos : Nat) : Span := ⟨secs * nanosPerSec + nanos⟩

def secs (s : Span) : Nat := s.nanos / nanosPerSec

def subsec (s : Span) : Nat := s.nanos % nanosPerSec

instance : LE Span := ⟨fun a b ↦ a.nanos ≤ b.nanos⟩

instance : LT Span := ⟨fun a b ↦ a.nanos < b.nanos⟩

instance (a b : Span) : Decidable (a ≤ b) := inferInstanceAs (Decidable (a.nanos ≤ b.nanos))

instance (a b : Span) : Decidable (a < b) := inferInstanceAs (Decidable (a.nanos < b.nanos))

/-- The largest of the units s, ms, µs and ns of which the span holds at least one, with the
number of decimal places that a nanosecond takes in it. -/
def unit (s : Span) : String × Nat :=
  if 1000000000 ≤ s.nanos then ("s", 9)
  else if 1000000 ≤ s.nanos then ("ms", 6)
  else if 1000 ≤ s.nanos then ("µs", 3)
  else ("ns", 0)

def fractionDigits (places n : Nat) : List Char :=
  let digits := Nat.toDigits 10 n
  let padded := List.replicate (places - digits.length) '0' ++ digits
  (padded.reverse.dropWhile (· = '0')).reverse

def display (s : Span) : String :=
  let (name, places) := s.unit
  let one := Nat.pow 10 places
  let whole := toString (s.nanos / one)
  match fractionDigits places (s.nanos % one) with
  | [] => whole ++ name
  | digits => whole ++ "." ++ String.ofList digits ++ name

def roundDiv (n d : Nat) : Nat :=
  let q := n / d
  let twice := 2 * (n % d)
  if twice < d ∨ (twice = d ∧ q % 2 = 0) then q else q + 1

def displayTenths (s : Span) : String :=
  let (name, places) := s.unit
  let tenths := roundDiv (s.nanos * 10) (Nat.pow 10 places)
  toString (tenths / 10) ++ "." ++ toString (tenths % 10) ++ name

end Span

end MountSweep.Time
