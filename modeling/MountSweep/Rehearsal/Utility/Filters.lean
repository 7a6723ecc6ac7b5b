import MountSweep.Regex.Search
import MountSweep.Rehearsal.Utility.Printing

namespace MountSweep.Rehearsal

open Posix Output

def inputOperand : Bytes := [45]

def contentOf (c : Call) (p : Path) (limit : Option Nat) : Work (Except Errno Bytes) :=
  if p = inputOperand then return .ok c.input
  else
    Work.look fun fs ↦
      match limit with
      | none => fs.contents p
      | some n => do
        let (h, fs) ← fs.openFile {} p
        fs.readAt h.ino 0 n

def cat (c : Call) : Work Nat := do
  let (_, operands) := splitOptions c.args
  let operands := if operands.isEmpty then [inputOperand] else operands
  Work.each operands fun p ↦ do
    match ← contentOf c p none with
    | .ok bs =>
      Work.say bs
      return true
    | .error e =>
      Work.complain (about "cat" p e)
      return false

def linesFrom (held : Bytes) : Bytes → List Bytes
  | [] => if held.isEmpty then [] else [held]
  | b :: rest => if b = 10 then (held ++ [b]) :: linesFrom [] rest else linesFrom (held ++ [b]) rest

/-- How much of a text is meant: a number of bytes or of lines. -/
structure Extent where
  bytes : Bool := false
  count : Nat := 10
  sign : Option Char := none

def multiple? (cs : List Char) : Option Nat :=
  let units := [('b', 512), ('k', 1024), ('K', 1024), ('M', 1048576)]
  match cs.getLast?.bind fun c ↦ units.lookup c with
  | some unit => (Bytes.toNat? (Bytes.ofLetters cs.dropLast)).map (· * unit)
  | none => Bytes.toNat? (Bytes.ofLetters cs)

def extentOf (bytes : Bool) (count : Bytes) : Except Bytes Extent :=
  let cs := Bytes.letters count
  let sign := cs.head?.filter fun c ↦ c = '+' || c = '-'
  match multiple? (if sign.isSome then cs.tail else cs) with
  | some count => .ok { bytes, count, sign }
  | none =>
    let what := if bytes then "bytes" else "lines"
    .error (message [.inl ("invalid number of " ++ what ++ ": "), .inr (quote count)])

def extent : List Bytes → Except Bytes (Extent × List Bytes)
  | [] => .ok ({}, [])
  | a :: rest =>
    match Bytes.letters a with
    | '-' :: c :: cs =>
      let bytes := c = 'c'
      if c = 'c' || c = 'n' then
        if cs.isEmpty then (extentOf bytes (rest.headD [])).map (·, rest.tail)
        else (extentOf bytes (Bytes.ofLetters cs)).map (·, rest)
      else if c.isDigit then (extentOf false (Bytes.ofLetters (c :: cs))).map (·, rest)
      else .ok ({}, rest)
    | _ => .ok ({}, a :: rest)

def passPart (name : String) (part : Extent → Bytes → Bytes) (c : Call) (limited : Bool) :
    Work Nat := do
  match extent c.args with
  | .error text =>
    Work.complain (Bytes.ofString (name ++ ": ") ++ text)
    return 1
  | .ok (e, operands) =>
    let operands := if operands.isEmpty then [inputOperand] else operands
    Work.each operands fun p ↦ do
      let isBounded := limited && e.bytes && e.sign ≠ some '-'
      match ← contentOf c p (if isBounded then some e.count else none) with
      | .ok bs =>
        Work.say (part e bs)
        return true
      | .error err =>
        Work.complain (cannot name "cannot open" p err)
        return false

def Extent.units (e : Extent) (bs : Bytes) : List Bytes :=
  if e.bytes then bs.map ([·]) else linesFrom [] bs

/-- Passes on the beginning of a text; a count with a minus says how much is left out at its
end. -/
def head (c : Call) : Work Nat :=
  passPart "head" (fun e bs ↦
    let us := e.units bs
    (us.take (if e.sign = some '-' then us.length - e.count else e.count)).flatten) c true

def tail (c : Call) : Work Nat :=
  passPart "tail" (fun e bs ↦
    let us := e.units bs
    (us.drop (if e.sign = some '+' then e.count - 1 else us.length - e.count)).flatten) c false

/-- The characters that a set of characters lists, reading at most `fuel` of its parts. -/
def charSet : Nat → List Char → List Char
  | 0, _ | _, [] => []
  | fuel + 1, '\\' :: rest =>
    match escape .format rest with
    | (some [c], rest) => c :: charSet fuel rest
    | (some cs, rest) => cs.drop 1 ++ charSet fuel rest
    | (none, rest) => 'c' :: charSet fuel rest
  | fuel + 1, a :: '-' :: b :: rest =>
    (List.range (b.toNat + 1 - a.toNat)).map (fun i ↦ Char.ofNat (a.toNat + i)) ++
      charSet fuel rest
  | fuel + 1, c :: rest => c :: charSet fuel rest

def tr (c : Call) : Work Nat := do
  let (options, operands) := splitOptions c.args
  let set := fun (bs : Bytes) ↦ charSet bs.length (Bytes.letters bs)
  match operands with
  | [] => misuse "tr" "missing operand" 1
  | first :: rest =>
    let listed := set first
    let isIn := fun (b : Char) ↦ listed.contains b != options.contains 'c'
    let cs := Bytes.letters c.input
    let out :=
      if options.contains 'd' then cs.filter (!isIn ·)
      else
        let targets := set (rest.headD [])
        cs.map fun b ↦
          if isIn b then
            (targets[listed.idxOf b]?).getD (targets.getLastD b)
          else b
    Work.say (Bytes.ofLetters out)
    return 0

def bracketSet (cs : List Char) : Option (Regex.CharSet × List Char) :=
  let negated := cs.head? = some '^'
  match (if negated then cs.tail else cs) with
  | [] => none
  | c :: rest =>
    match rest.dropWhile (· ≠ ']') with
    | [] => none
    | _ :: after =>
      let listed := charSet (rest.length + 1) (c :: rest.takeWhile (· ≠ ']'))
      let set := Regex.CharSet.unions (listed.map .single)
      some (if negated then .compl set else set, after)

/-- The parts of a basic regular expression after `acc`, which has the last part first. -/
def basicParts : Nat → List Regex → List Char → Option (List Regex)
  | 0, _, _ => none
  | _, acc, [] => some acc.reverse
  | fuel + 1, acc, c :: rest =>
    let one (r : Regex) (rest : List Char) : Option (List Regex) := basicParts fuel (r :: acc) rest
    let again (min : Nat) (max : Option Nat) (rest : List Char) : Option (List Regex) :=
      match acc with
      | r :: more => basicParts fuel (.iterate r min max true :: more) rest
      | [] => one (.literal ['*']) rest
    match c, rest with
    | '^', _ => if acc.isEmpty then one (.look .textStart) rest else one (.literal ['^']) rest
    | '$', [] => one (.look .textEnd) rest
    | '.', _ => one (.oneOf .all) rest
    | '*', _ => again 0 none rest
    | '[', _ =>
      match bracketSet rest with
      | some (set, rest) => one (.oneOf set) rest
      | none => none
    | '\\', '+' :: rest => again 1 none rest
    | '\\', '?' :: rest => again 0 (some 1) rest
    | '\\', 'n' :: rest => one (.literal ['\n']) rest
    | '\\', d :: rest => if d = '(' || d = ')' || d.isDigit then none else one (.literal [d]) rest
    | '\\', [] => none
    | _, _ => one (.literal [c]) rest

def basicRegex? (cs : List Char) : Option Regex :=
  (basicParts (cs.length + 1) [] cs).map Regex.seqs

/-- A substitution: what is replaced, by what, and whether everywhere. -/
structure Substitution where
  regex : Regex
  replacement : List Char
  everywhere : Bool

/-- The text up to a delimiter that no backslash stands before, and what comes after it. A
delimiter after a backslash loses the backslash. -/
def upTo (delimiter : Char) : List Char → Option (List Char × List Char)
  | [] => none
  | '\\' :: c :: rest =>
    (upTo delimiter rest).map fun (t, after) ↦
      (if c = delimiter then c :: t else '\\' :: c :: t, after)
  | c :: rest =>
    if c = delimiter then some ([], rest)
    else (upTo delimiter rest).map fun (t, after) ↦ (c :: t, after)

def substitution? (script : List Char) : Option Substitution :=
  match script with
  | 's' :: d :: rest =>
    (upTo d rest).bind fun (pattern, rest) ↦
      (upTo d rest).bind fun (replacement, flags) ↦
        (basicRegex? pattern).bind fun regex ↦
          if flags = [] || flags = ['g'] then some ⟨regex, replacement, flags = ['g']⟩ else none
  | _ => none

def replacementFor (found : List Char) : List Char → List Char
  | [] => []
  | '\\' :: 'n' :: rest => '\n' :: replacementFor found rest
  | '\\' :: c :: rest => c :: replacementFor found rest
  | '&' :: rest => found ++ replacementFor found rest
  | c :: rest => c :: replacementFor found rest

def substituteIn (s : Substitution) (left : Bool) : List Regex.Piece → List Char
  | [] => []
  | .kept c :: rest => c :: substituteIn s left rest
  | .found t :: rest =>
    if left then replacementFor t s.replacement ++ substituteIn s s.everywhere rest
    else t ++ substituteIn s left rest

def sed (c : Call) : Work Nat := do
  let args := c.args.filter (· ≠ Bytes.ofString "-e")
  match args with
  | [] => misuse "sed" "no script specified" 1
  | script :: operands =>
    match substitution? (Bytes.letters script) with
    | none =>
      Work.complain (Bytes.ofString "sed: -e expression #1, char 1: unknown command")
      return 1
    | some s =>
      let operands := if operands.isEmpty then [inputOperand] else operands
      Work.each operands fun p ↦ do
        match ← contentOf c p none with
        | .error e =>
          Work.complain (message [.inl "sed: can't read ", .inr p, .inl (": " ++ e.describe)])
          return false
        | .ok bs =>
          let edited := (linesFrom [] bs).flatMap fun l ↦
            let cs := Bytes.letters l
            let line := cs.takeWhile (· ≠ '\n')
            Bytes.ofLetters (substituteIn s true (s.regex.pieces line) ++ cs.drop line.length)
          Work.say edited
          return true

end MountSweep.Rehearsal
