import MountSweep.Regex.Basic

namespace MountSweep.Regex

structure Flags where
  caseInsensitive : Bool := false
  multiLine : Bool := false
  dotMatchesNewline : Bool := false
  swapGreed : Bool := false
  unicode : Bool := true
  crlf : Bool := false
  ignoreSpace : Bool := false
  deriving DecidableEq, Repr, Inhabited

/-- A pattern. A set keeps the number of levels of its brackets; a directive sets flags for what
follows, which have taken their effect. -/
inductive Pattern
  | directive
  | oneOf (s : CharSet) (levels : Nat)
  | look (l : Look)
  | group (captures : Bool) (p : Pattern)
  | iterate (p : Pattern) (min : Nat) (max : Option Nat) (greedy : Bool)
  | seq (ps : List Pattern)
  | choice (ps : List Pattern)
  deriving Repr, Inhabited

namespace Pattern

def ofBranches : List Pattern → Pattern
  | [p] => p
  | ps => .choice ps

def ofParts : List Pattern → Pattern
  | [p] => p
  | ps => .seq ps

mutual

def height : Pattern → Nat
  | .directive | .look _ | .seq [] => 0
  | .oneOf _ levels => levels
  | .group _ p => p.height + 1
  | .iterate p _ _ _ => p.height + 1
  | .seq ps => heightAll ps + 1
  | .choice ps => heightAll ps + 1

def heightAll : List Pattern → Nat
  | [] => 0
  | p :: rest => Nat.max p.height (heightAll rest)

end

end Pattern

end MountSweep.Regex
