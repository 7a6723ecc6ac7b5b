import MountSweep.Time.Span
import MountSweep.Unicode.Character

namespace MountSweep.Time.Human

inductive TimeUnit
  | nanosecond | microsecond | millisecond | second | minute | hour | day | week | month | year
  deriving DecidableEq, Repr

def TimeUnit.spellings : TimeUnit → List String
  | .nanosecond => ["nanos", "nsec", "ns"]
  | .microsecond => ["usec", "us", "µs"]
  | .millisecond => ["millis", "msec", "ms"]
  | .second => ["seconds", "second", "secs", "sec", "s"]
  | .minute => ["minutes", "minute", "mins", "min", "m"]
  | .hour => ["hours", "hour", "hrs", "hr", "h"]
  | .day => ["days", "day", "d"]
  | .week => ["weeks", "week", "wks", "wk", "w"]
  | .month => ["months", "month", "M"]
  | .year => ["years", "year", "yrs", "yr", "y"]

def TimeUnit.all : List TimeUnit :=
  [.nanosecond, .microsecond, .millisecond, .second, .minute, .hour, .day, .week, .month, .year]

def TimeUnit.ofChars? (cs : List Char) : Option TimeUnit :=
  TimeUnit.all.find? fun u ↦ u.spellings.any fun s ↦ s.toList = cs

def limit : Nat := 0x10000000000000000

def bounded (n : Nat) : Option Nat :=
  if n < limit then some n else none

/-- Nanoseconds of `n` units below the minute: such amounts are counted in nanoseconds. Larger
ones are counted in seconds. -/
def amount (u : TimeUnit) (n : Nat) : Option (Nat × Nat) :=
  match u with
  | .nanosecond => some (0, n)
  | .microsecond => (bounded (n * 1000)).map (0, ·)
  | .millisecond => (bounded (n * 1000000)).map (0, ·)
  | .second => some (n, 0)
  | .minute => (bounded (n * 60)).map (·, 0)
  | .hour => (bounded (n * 3600)).map (·, 0)
  | .day => (bounded (n * 86400)).map (·, 0)
  | .week => (bounded (n * 604800)).map (·, 0)
  | .month => (bounded (n * 2630016)).map (·, 0)
  | .year => (bounded (n * 31557600)).map (·, 0)

/-- The quotient of a product by a power of ten, which has to leave no remainder. -/
def exactly (n scale d : Nat) : Option Nat :=
  (bounded (n * scale)).bind fun m ↦ if m % d = 0 then some (m / d) else none

/-- The part `n / d` of a unit: whole nanoseconds up to the minute and whole seconds beyond. What
is finer is refused. -/
def fractionAmount (u : TimeUnit) (n d : Nat) : Option (Nat × Nat) :=
  match u with
  | .nanosecond => none
  | .microsecond => (exactly n 1000 d).map (0, ·)
  | .millisecond => (exactly n 1000000 d).map (0, ·)
  | .second => (exactly n 1000000000 d).map (0, ·)
  | .minute => (exactly n 60000000000 d).map (0, ·)
  | .hour => (exactly n 3600 d).map (·, 0)
  | .day => (exactly n 86400 d).map (·, 0)
  | .week => (exactly n 604800 d).map (·, 0)
  | .month => (exactly n 2630016 d).map (·, 0)
  | .year => (exactly n 31557600 d).map (·, 0)

def add (total : Span) : Nat × Nat → Option Span
  | (secs, nanos) => do
    let _ ← bounded (total.subsec + nanos)
    let sum := total.nanos + secs * Span.nanosPerSec + nanos
    if sum / Span.nanosPerSec < limit then some ⟨sum⟩ else none

def isUnitChar (c : Char) : Bool :=
  c.isAlpha || c == 'µ'

/-- Digits read on from the value `n`, white space between them skipped; stops in front of the
first other character. -/
def number (n : Nat) : List Char → Option (Nat × List Char)
  | [] => some (n, [])
  | c :: rest =>
    if c.isDigit then (bounded (n * 10 + (c.toNat - 48))).bind fun n ↦ number n rest
    else if Unicode.isSpace c then number n rest
    else some (n, c :: rest)

def fraction (n d : Nat) : List Char → Option ((Nat × Nat) × List Char)
  | [] => some ((n, d), [])
  | c :: rest =>
    if c.isDigit then do
      let d ← bounded (d * 10)
      let n ← bounded (n * 10 + (c.toNat - 48))
      fraction n d rest
    else if Unicode.isSpace c then fraction n d rest
    else some ((n, d), c :: rest)

/-- What follows the name of a unit: the next number, if any. White space ends a name, and more
of it may follow; a digit ends a name as well. -/
def afterUnit : List Char → Option (Option (List Char))
  | [] => some none
  | c :: rest =>
    if c.isDigit then some (some (c :: rest))
    else if Unicode.isSpace c then afterUnit rest
    else none

/-- Numbers with units, added to a total; each starts with a digit. The fuel bounds their
number. -/
def terms : Nat → Span → List Char → Option Span
  | 0, _, _ => none
  | fuel + 1, total, cs => do
    let (n, rest) ← number 0 cs
    let (fraction?, rest) ←
      match rest with
      | '.' :: rest => do
        let ((p, q), rest) ← fraction 0 1 rest
        if q = 1 then none else some (some (p, q), rest)
      | rest => some (none, rest)
    let u ← TimeUnit.ofChars? (rest.takeWhile isUnitChar)
    let total ← (amount u n).bind (add total)
    let total ←
      match fraction? with
      | some (p, q) => (fractionAmount u p q).bind (add total)
      | none => some total
    match ← afterUnit (rest.dropWhile isUnitChar) with
    | some more => terms fuel total more
    | none => some total

def parse? (cs : List Char) : Option Span :=
  if cs = ['0'] then some ⟨0⟩
  else
    match cs.dropWhile Unicode.isSpace with
    | c :: rest => if c.isDigit then terms cs.length ⟨0⟩ (c :: rest) else none
    | [] => none

end MountSweep.Time.Human
