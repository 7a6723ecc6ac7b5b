import MountSweep.Regex.Pattern.Class

namespace MountSweep.Regex.Reader

def flag? (c : Char) : Option (Bool → Flags → Flags) :=
  match c with
  | 'i' => some fun on f ↦ { f with caseInsensitive := on }
  | 'm' => some fun on f ↦ { f with multiLine := on }
  | 's' => some fun on f ↦ { f with dotMatchesNewline := on }
  | 'U' => some fun on f ↦ { f with swapGreed := on }
  | 'u' => some fun on f ↦ { f with unicode := on }
  | 'R' => some fun on f ↦ { f with crlf := on }
  | 'x' => some fun on f ↦ { f with ignoreSpace := on }
  | _ => none

/-- Flags up to a colon or a closing parenthesis, put into `f`. `seen` are the signs before, and
`negating` says that the last one was a dash. -/
def flagLetters (fuel : Nat) (seen : List Char) (f : Flags) : Read (List Char × Flags) :=
  match fuel with
  | 0 => fail .unexpectedEnd
  | fuel + 1 => do
    match ← peek with
    | none => fail .unexpectedEnd
    | some c =>
      if c = ':' ∨ c = ')' then
        if seen.getLast? = some '-' then fail .flagDangling else return (seen, f)
      else if c ∈ seen then fail .flagRepeated
      else if c = '-' then
        bump
        flagLetters fuel (seen ++ [c]) f
      else
        match flag? c with
        | none => fail .flagUnknown
        | some put =>
          bump
          flagLetters fuel (seen ++ [c]) (put ('-' ∉ seen) f)

def isGroupNameChar (isFirst : Bool) (c : Char) : Bool :=
  let alphabetic := if c.toNat < 0x80 then c.isAlpha else Unicode.hasProperty .alphabetic c
  if isFirst then c = '_' || alphabetic
  else
    c = '_' || c = '.' || c = '[' || c = ']' || alphabetic ||
      [.Nd, .Nl, .No].contains (Unicode.category c)

def groupName : Read Unit := do
  let s ← get
  let name := s.rest.takeWhile (· ≠ '>')
  match s.rest.drop name.length with
  | [] => fail .unexpectedEnd
  | _ :: rest =>
    match name with
    | [] => fail .groupNameEmpty
    | c :: more =>
      if !isGroupNameChar true c || !more.all (isGroupNameChar false) then fail .groupNameInvalid
      else if name ∈ s.names then fail .groupNameRepeated
      else set { s with rest := rest, names := s.names ++ [name] }

/-- What an opening parenthesis begins: a group under some flags, or flags for what follows. -/
inductive GroupStart
  | group (captures : Bool) (f : Flags)
  | directive (f : Flags)

def groupStart : Read GroupStart := do
  bumpOn
  let f := (← get).flags
  let rest := (← get).rest
  if [['?', '='], ['?', '!'], ['?', '<', '='], ['?', '<', '!']].any (·.isPrefixOf rest) then
    fail .lookAround
  else if ← bumpIf ['?', 'P', '<'] then
    groupName
    return .group true f
  else if ← bumpIf ['?', '<'] then
    groupName
    return .group true f
  else if ← bumpIf ['?'] then
    let (seen, f) ← flagLetters ((← get).rest.length + 1) [] f
    let stop ← peek
    bump
    if stop = some ')' then
      if seen = [] then fail .nothingToRepeat else return .directive f
    else return .group false f
  else return .group true f

def decimal : Read (Option Nat) := do
  modify fun s ↦ { s with rest := s.rest.dropWhile Unicode.isSpace }
  let digits ← takeAll Char.isDigit
  modify fun s ↦ { s with rest := s.rest.dropWhile Unicode.isSpace }
  if digits = [] then return none
  else
    let n := digits.foldl (fun n c ↦ n * 10 + (c.toNat - 48)) 0
    if n < 0x100000000 then return some n else fail .countTooLarge

/-- The bounds of a counted repetition, after its opening brace and up to its closing one, which
is not taken. -/
def countBounds : Read (Nat × Option Nat) := do
  bumpOn
  if (← peek).isNone then fail .countUnclosed
  else
    let min ← decimal
    match ← peek with
    | none => fail .countUnclosed
    | some ',' =>
      bumpOn
      match ← peek, min with
      | none, _ => fail .countUnclosed
      | _, none => fail .countEmpty
      | some '\x7d', some min => return (min, none)
      | some _, some min =>
        match ← decimal with
        | none => fail .countEmpty
        | some max => return (min, some max)
    | some _ =>
      match min with
      | none => fail .countEmpty
      | some min => return (min, some min)

def repeated (parts : List Pattern) (min : Nat) (max : Option Nat) (lazy : Bool) :
    Read (List Pattern) := do
  match parts with
  | [] | .directive :: _ => fail .nothingToRepeat
  | p :: before => return .iterate p min max (lazy == (← get).flags.swapGreed) :: before

def isRepeatable : List Pattern → Bool
  | [] | .directive :: _ => false
  | _ => true

def charPattern (c : Char) : Read Pattern := do
  let f := (← get).flags
  if !f.caseInsensitive then return .oneOf (.single c) 0
  else if f.unicode then return .oneOf (.foldsLike c) 0
  else return .oneOf (.asciiFolded (.single c)) 0

def escapePattern : Escape → Read Pattern
  | .char c => charPattern c
  | .byte c => do
    if !(← get).flags.unicode ∧ 0x80 ≤ c.toNat then fail .notUtf8 else charPattern c
  | .look l => return .look l
  | .class s negated => return .oneOf (← byteSet (← classSet s negated)) 0
  | .property s negated => return .oneOf (← propertySet s negated) 0

def dotPattern : Read Pattern := do
  let f := (← get).flags
  if !f.unicode then fail .notUtf8
  else if f.dotMatchesNewline then return .oneOf .all 0
  else if f.crlf then return .oneOf (.compl (.union (.single '\r') (.single '\n'))) 0
  else return .oneOf (.compl (.single '\n')) 0

def anchor (atStart : Bool) : Read Pattern := do
  let f := (← get).flags
  return .look <|
    if !f.multiLine then if atStart then .textStart else .textEnd
    else if f.crlf then if atStart then .lineStartCrlf else .lineEndCrlf
    else if atStart then .lineStart else .lineEnd

/-- The inside of a group, given its branches and the parts of the last one, last first. -/
def wholeGroup (branches parts : List Pattern) : Pattern :=
  .ofBranches (.ofParts parts.reverse :: branches).reverse

/-- The inside of a group, up to its closing parenthesis or the end of the pattern, neither of
which is taken. `branches` and `parts` are what was read of it, last first. -/
def groupBody (fuel : Nat) (branches parts : List Pattern) : Read Pattern :=
  match fuel with
  | 0 => fail .unexpectedEnd
  | fuel + 1 => do
    bumpSpace
    let add := fun (p : Pattern) ↦ groupBody fuel branches (p :: parts)
    match ← peek with
    | none => return wholeGroup branches parts
    | some c =>
      match c with
      | ')' => return wholeGroup branches parts
      | '|' =>
        bump
        groupBody fuel (.ofParts parts.reverse :: branches) []
      | '(' =>
        let outer := (← get).flags
        match ← groupStart with
        | .directive f =>
          modify fun s ↦ { s with flags := f }
          add .directive
        | .group captures f =>
          modify fun s ↦ { s with flags := f }
          let p ← groupBody fuel [] []
          if (← peek) ≠ some ')' then fail .groupUnclosed
          else
            bump
            modify fun s ↦ { s with flags := outer }
            add (.group captures p)
      | '[' =>
        let (s, levels) ← bracketed
        add (.oneOf s levels)
      | '?' | '*' | '+' =>
        if !isRepeatable parts then fail .nothingToRepeat
        else
          bump
          let lazy ← bumpIf ['?']
          let (min, max) :=
            if c = '?' then (0, some 1) else if c = '*' then (0, none) else (1, none)
          groupBody fuel branches (← repeated parts min max lazy)
      | '\x7b' =>
        if !isRepeatable parts then fail .nothingToRepeat
        else
          let (min, max) ← countBounds
          if (← peek) ≠ some '\x7d' then fail .countUnclosed
          else
            bumpOn
            let lazy ← bumpIf ['?']
            if max.any (· < min) then fail .countReversed
            else groupBody fuel branches (← repeated parts min max lazy)
      | '\\' => add (← escapePattern (← escape))
      | '.' =>
        bump
        add (← dotPattern)
      | '^' =>
        bump
        add (← anchor true)
      | '$' =>
        bump
        add (← anchor false)
      | c =>
        bump
        add (← charPattern c)

end MountSweep.Regex.Reader
