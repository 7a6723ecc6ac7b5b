import MountSweep.Regex.Pattern
import MountSweep.Regex.Search
import MountSweep.Error

namespace MountSweep.Output

/-- How the pattern of a rule is to be understood. -/
structure RuleFlags where
  caseInsensitive : Bool := false
  multiLine : Bool := true
  dotMatchesNewline : Bool := false
  deriving DecidableEq, Repr, Inhabited

structure RuleSpec where
  pattern : String
  count : Nat := 0
  literal : Bool := false
  caseInsensitive : Bool := false
  deriving DecidableEq, Repr, Inhabited

/-- A rule: an expression, the pattern it was read from and how many matches it removes, all of
them if the allowance is zero. -/
structure Rule where
  pattern : String
  regex : Regex
  allowance : Nat
  deriving DecidableEq, Repr

namespace Rule

def ofPattern? (pattern : String) (flags : RuleFlags) (allowance : Nat) :
    Except ConfigError Rule :=
  let regexFlags : Regex.Flags :=
    { caseInsensitive := flags.caseInsensitive, multiLine := flags.multiLine,
      dotMatchesNewline := flags.dotMatchesNewline }
  match Regex.parse? regexFlags pattern.toList with
  | .ok regex => .ok ⟨pattern, regex, allowance⟩
  | .error fault => .error (.invalidPattern pattern fault.message)

def escapedPattern (text : String) : String :=
  String.ofList (Regex.escaped text.toList)

def ofLiteral? (text : String) (allowance : Nat) : Except ConfigError Rule :=
  ofPattern? (escapedPattern text) {} allowance

def ofSpec? (spec : RuleSpec) : Except ConfigError Rule :=
  ofPattern? (if spec.literal then escapedPattern spec.pattern else spec.pattern)
    { caseInsensitive := spec.caseInsensitive } spec.count

/-- The two streams without what a rule removes: standard output is served first, and standard
error gets what is left of the allowance. -/
def strip (rule : Rule) (stdout stderr : List Char) : List Char × List Char :=
  if rule.allowance = 0 then (rule.regex.eraseAll stdout, rule.regex.eraseAll stderr)
  else
    let inStdout := ((rule.regex.matches? stdout).take rule.allowance).length
    let remaining := rule.allowance - inStdout
    (rule.regex.eraseUpTo rule.allowance stdout,
      if 0 < remaining then rule.regex.eraseUpTo remaining stderr else stderr)

end Rule

end MountSweep.Output
