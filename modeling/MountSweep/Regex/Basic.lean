import MountSweep.Regex.CharSet

namespace MountSweep.Regex

/-- A gap between two characters: the one before and the one after it. -/
structure Gap where
  before : Option Char
  after : Option Char
  deriving DecidableEq, Repr

/-- A condition on a gap. The flag of a condition on words says that only ASCII counts. -/
inductive Look
  | textStart
  | textEnd
  | lineStart
  | lineEnd
  | lineStartCrlf
  | lineEndCrlf
  | wordBoundary (ascii : Bool)
  | notWordBoundary (ascii : Bool)
  | wordStart (ascii : Bool)
  | wordEnd (ascii : Bool)
  | wordStartHalf (ascii : Bool)
  | wordEndHalf (ascii : Bool)
  deriving DecidableEq, Repr

def isWordAt (ascii : Bool) : Option Char → Bool
  | none => false
  | some c => if ascii then Unicode.isAsciiWord c else Unicode.isWord c

def Look.holds (g : Gap) : Look → Bool
  | textStart => g.before = none
  | textEnd => g.after = none
  | lineStart => g.before = none || g.before = some '\n'
  | lineEnd => g.after = none || g.after = some '\n'
  | lineStartCrlf =>
    g.before = none || g.before = some '\n' || (g.before = some '\r' && g.after ≠ some '\n')
  | lineEndCrlf =>
    g.after = none || g.after = some '\r' || (g.after = some '\n' && g.before ≠ some '\r')
  | wordBoundary ascii => isWordAt ascii g.before != isWordAt ascii g.after
  | notWordBoundary ascii => isWordAt ascii g.before == isWordAt ascii g.after
  | wordStart ascii => !isWordAt ascii g.before && isWordAt ascii g.after
  | wordEnd ascii => isWordAt ascii g.before && !isWordAt ascii g.after
  | wordStartHalf ascii => !isWordAt ascii g.before
  | wordEndHalf ascii => !isWordAt ascii g.after

end Regex

/-- A regular expression. `again r` is any number of passes through `r`, at the place that is
reached again after each of them. -/
inductive Regex
  | empty
  | oneOf (s : Regex.CharSet)
  | look (l : Regex.Look)
  | seq (a b : Regex)
  | alt (a b : Regex)
  | iterate (r : Regex) (min : Nat) (max : Option Nat) (greedy : Bool)
  | again (r : Regex) (greedy : Bool)
  deriving DecidableEq, Repr

namespace Regex

/-- Whether an expression might match the empty text, were all conditions to hold. -/
def nullable : Regex → Bool
  | empty | look _ | again .. => true
  | oneOf _ => false
  | seq a b => a.nullable && b.nullable
  | alt a b => a.nullable || b.nullable
  | iterate r min _ _ => min = 0 || r.nullable

/-- Whether an expression may come back to its own beginning without taking a character. -/
def isLoop : Regex → Bool
  | again r _ => r.nullable
  | _ => false

abbrev Way := List Regex

/-- What can be done at a gap: end there, or take a character of a set and go on along a way. -/
inductive Move
  | done
  | take (s : CharSet) (rest : Way)
  deriving DecidableEq, Repr

/-- A search for moves, in order of preference. Its state holds ways that the search has met. -/
abbrev Search := StateM (List Way) (List Move)

def nowhere : Search := return []

/-- The moves of two searches, one after the other; those of the second are preferred unless
`inOrder`. -/
def both (inOrder : Bool) (first second : Search) : Search :=
  if inOrder then return (← first) ++ (← second) else return (← second) ++ (← first)

/-- The search along a way. Where `check` is set, it has no moves if the way has been met before:
what it can do is among the moves already, or will be, at the place of that first meeting. -/
def once (check : Bool) (way : Way) (search : Search) : Search := do
  if check then
    if (← get).contains way then return []
    else
      modify (way :: ·)
      search
  else search

/-- The moves of `n` passes through a body and of what comes last. `body` is given what is left
after a pass, as a way and as a search, and `left n` is the expression of `n` further passes. -/
def passes (body : Way → Search → Search) (left : Nat → Regex) (rest : Way) (last : Search) :
    Nat → Search
  | 0 => last
  | n + 1 => body (left n :: rest) (passes body left rest last n)

def options (body : Way → Search → Search) (left : Nat → Regex) (greedy check : Bool) (rest : Way)
    (last : Search) : Nat → Search
  | 0 => last
  | n + 1 =>
    once check (left (n + 1) :: rest) <|
      both greedy (body (left n :: rest) (options body left greedy check rest last n)) last

/-- The moves of an expression at a gap, `rest` being what comes after it and `last` the search
along `rest`. Only `inLoop` can the search come back to a way, and only from several branches that
may match nothing can it come to one way twice; so only there is it watched. -/
def front (g : Gap) (inLoop : Bool) : Regex → Way → Search → Search
  | empty, _, last => last
  | oneOf s, rest, _ => return [.take s rest]
  | look l, _, last => if l.holds g then last else nowhere
  | seq a b, rest, last => front g inLoop a (b :: rest) (front g inLoop b rest last)
  | alt a b, rest, last =>
    let last := once (a.nullable && b.nullable) (empty :: alt a b :: rest) last
    once inLoop (alt a b :: rest) <|
      both true (front g inLoop a rest last) (front g inLoop b rest last)
  | again r greedy, rest, last =>
    let inside := inLoop || r.nullable
    let way := again r greedy :: rest
    once inside way (both greedy (front g inside r way nowhere) last)
  | iterate r min max greedy, rest, last =>
    let inside := inLoop || r.nullable
    let last := once r.nullable (empty :: iterate r min max greedy :: rest) last
    match max with
    | none =>
      let way := again r greedy :: rest
      let loop := once inside way (both greedy (front g inside r way nowhere) last)
      match min with
      | 0 =>
        once inLoop (iterate r 0 none greedy :: rest) <|
          both greedy (front g inside r way loop) last
      | n + 1 =>
        passes (front g inside r)
          (fun | 0 => again r greedy | k + 1 => iterate r (k + 1) none greedy) rest loop (n + 1)
    | some max =>
      let more := max - min
      let optional :=
        options (front g inside r) (fun n ↦ iterate r 0 (some n) greedy) greedy inLoop rest last
          more
      passes (front g inside r) (fun n ↦ iterate r n (some (n + more)) greedy) rest optional min

def frontAll (g : Gap) : Way → Search
  | [] => return [.done]
  | r :: rest => front g (rest.any isLoop) r rest (frontAll g rest)

def frontEach (g : Gap) : List Way → Search
  | [] => nowhere
  | way :: ways => both true (frontAll g way) (frontEach g ways)

def moves (g : Gap) (ways : List Way) : List Move := (frontEach g ways []).1

def distinct : List Way → List Way
  | [] => []
  | [t] => [t]
  | ts => ts.eraseDups

/-- The length of the match from a gap on, for the ways `ways` in order of preference; `taken`
characters were taken and `best` is the match found so far. Ways after one that ends are given
up. -/
def run (ways : List Way) (before : Option Char) (taken : Nat) (best : Option Nat) :
    List Char → Option Nat
  | [] => if (moves ⟨before, none⟩ ways).contains .done then some taken else best
  | c :: rest =>
    let ms := moves ⟨before, some c⟩ ways
    let best := if ms.contains .done then some taken else best
    let next := (ms.takeWhile (· ≠ .done)).filterMap fun
      | .done => none
      | .take s k => if s.contains c then some k else none
    match distinct next with
    | [] => best
    | next => run next (some c) (taken + 1) best rest

def matchLength? (r : Regex) (before : Option Char) (cs : List Char) : Option Nat :=
  run [[r]] before 0 none cs

def seqs : List Regex → Regex
  | [] => empty
  | [r] => r
  | r :: rest => seq r (seqs rest)

def alts : List Regex → Regex
  | [] => oneOf .empty
  | [r] => r
  | r :: rest => alt r (alts rest)

def literal (cs : List Char) : Regex :=
  seqs (cs.map fun c ↦ oneOf (.single c))

end Regex

end MountSweep
