import MountSweep.Output.Rule

namespace MountSweep.Output

def letters (word : String) : List Regex :=
  word.toList.map fun c ↦ .oneOf (.foldsLike c)

def optionalEd : Regex :=
  .iterate (.seqs (letters "ed")) 0 (some 1) true

/-- A word that no healthy service prints, standing alone and in any case:
`\b(?:exception|error|warning|fatal|traceback|fault|crash(?:ed)?|abort(?:ed)?|uninitiali[zs]ed)\b`.
-/
def suspiciousWord : Regex :=
  .seqs [
    .look (.wordBoundary false),
    .alts [
      .seqs (letters "exception"), .seqs (letters "error"), .seqs (letters "warning"),
      .seqs (letters "fatal"), .seqs (letters "traceback"), .seqs (letters "fault"),
      .seqs (letters "crash" ++ [optionalEd]), .seqs (letters "abort" ++ [optionalEd]),
      .seqs (letters "uninitiali" ++
        .oneOf (.folded (.union (.single 'z') (.single 's'))) :: letters "ed")],
    .look (.wordBoundary false)]

def leakSummary : Regex :=
  .seqs (.look .lineStart :: letters "==" ++
    .iterate (.oneOf (.folded (.range '0' '9'))) 1 none true :: letters "== LEAK SUMMARY:")

/-- The rules in force during a run, in the order of their registration. -/
structure Surveillance where
  rules : List Rule := []
  deriving DecidableEq, Repr, Inhabited

inductive RegistryCall
  | register (rule : Rule)
  | registerPattern (pattern : String) (flags : RuleFlags) (allowance : Nat)
  | registerLiteral (text : String) (allowance : Nat)
  | clear
  deriving DecidableEq, Repr

namespace Surveillance

def register (s : Surveillance) (rule : Rule) : Surveillance :=
  ⟨s.rules ++ [rule]⟩

def registerRead (s : Surveillance) :
    Except ConfigError Rule → Except ConfigError Unit × Surveillance
  | .ok rule => (.ok (), s.register rule)
  | .error e => (.error e, s)

def call (s : Surveillance) : RegistryCall → Except ConfigError Unit × Surveillance
  | .register rule => (.ok (), s.register rule)
  | .registerPattern pattern flags allowance =>
    s.registerRead (Rule.ofPattern? pattern flags allowance)
  | .registerLiteral text allowance => s.registerRead (Rule.ofLiteral? text allowance)
  | .clear => (.ok (), {})

def residual (s : Surveillance) (c : Captured) : List Char × List Char :=
  s.rules.foldl (fun (out, err) rule ↦ rule.strip out err) (c.text .stdout, c.text .stderr)

def residue (s : Surveillance) (c : Captured) : Captured :=
  let (out, err) := s.residual c
  ⟨Bytes.ofChars out, Bytes.ofChars err⟩

/-- The first suspicious text that the rules leave: words before leaks, and standard error before
standard output. -/
def classify (s : Surveillance) (c : Captured) : Except SuspiciousOutput Unit :=
  let (out, err) := s.residual c
  let searches := [(suspiciousWord, Stream.stderr, err), (suspiciousWord, Stream.stdout, out),
    (leakSummary, Stream.stderr, err), (leakSummary, Stream.stdout, out)]
  match searches.findSome? fun (r, stream, text) ↦ (r.find? text).map fun t ↦ (stream, t) with
  | some (stream, found) => .error ⟨stream, String.ofList found⟩
  | none => .ok ()

end Surveillance

end MountSweep.Output
