import MountSweep.Regex.Pattern.Escape

namespace MountSweep.Regex.Reader

def asciiClass : CharSet → CharSet
  | .digit => .range '0' '9'
  | .space => .union (.range '\t' '\r') (.single ' ')
  | .word =>
    .unions [.range 'a' 'z', .range 'A' 'Z', .range '0' '9', .single '_']
  | s => s

def namedClass? (name : List Char) : Option CharSet :=
  match String.ofList name with
  | "alnum" => some (.unions [.range '0' '9', .range 'A' 'Z', .range 'a' 'z'])
  | "alpha" => some (.unions [.range 'A' 'Z', .range 'a' 'z'])
  | "ascii" => some (.range '\x00' '\x7f')
  | "blank" => some (.unions [.single '\t', .single ' '])
  | "cntrl" => some (.unions [.range '\x00' '\x1f', .single '\x7f'])
  | "digit" => some (.range '0' '9')
  | "graph" => some (.range '!' '~')
  | "lower" => some (.range 'a' 'z')
  | "print" => some (.range ' ' '~')
  | "punct" =>
    some (.unions [.range '!' '/', .range ':' '@', .range '[' '\x60', .range '\x7b' '~'])
  | "space" => some (.unions [.range '\t' '\r', .single ' '])
  | "upper" => some (.range 'A' 'Z')
  | "word" => some (.unions [.range '0' '9', .range 'A' 'Z', .single '_', .range 'a' 'z'])
  | "xdigit" => some (.unions [.range '0' '9', .range 'A' 'F', .range 'a' 'f'])
  | _ => none

def foldUnder (f : Flags) (s : CharSet) : CharSet :=
  if !f.caseInsensitive then s else if f.unicode then .folded s else .asciiFolded s

def negateIf (negated : Bool) (s : CharSet) : CharSet :=
  if negated then .compl s else s

def classSet (s : CharSet) (negated : Bool) : Read CharSet := do
  return negateIf negated (if (← get).flags.unicode then s else asciiClass s)

def propertySet (s : CharSet) (negated : Bool) : Read CharSet := do
  let f := (← get).flags
  if f.unicode then return negateIf negated (foldUnder f s) else fail .propertyWithoutUnicode

/-- A member of a class as it is read: a character, which may begin a range, or a set. -/
inductive Member
  | char (c : Char)
  | set (s : CharSet)

/-- Checks that a character may stand in a class under the flags in force: without Unicode, a
class holds bytes, and no byte beyond ASCII is text. -/
def classChar (c : Char) : Read Char := do
  if (← get).flags.unicode ∨ c.toNat < 0x80 then return c else fail .notUtf8

def byteSet (s : CharSet) : Read CharSet := do
  if !(← get).flags.unicode ∧ !s.isAscii then fail .notUtf8 else return s

def member : Read Member := do
  match ← peek with
  | none => fail .classUnclosed
  | some '\\' =>
    match ← escape with
    | .char c | .byte c => return .char c
    | .class s negated => return .set (← byteSet (← classSet s negated))
    | .property s negated => return .set (← propertySet s negated)
    | .look _ => fail .escapeUnknown
  | some c =>
    bump
    return .char c

def memberOrRange : Read CharSet := do
  let first ← member
  bumpSpace
  match ← peek with
  | none => fail .classUnclosed
  | some c =>
    let second ← peekSecond
    if c ≠ '-' ∨ second = some ']' ∨ second = some '-' then
      match first with
      | .char c => return .single (← classChar c)
      | .set s => return s
    else
      bumpOn
      if (← peek).isNone then fail .classUnclosed
      else
        match first, ← member with
        | .char a, .char b =>
          if b < a then fail .rangeReversed
          else return .range (← classChar a) (← classChar b)
        | _, _ => fail .rangeEnd

/-- A named class in brackets and colons, if one comes next; otherwise nothing is taken. -/
def namedMember : Read (Option CharSet) := do
  let start ← get
  let giveUp : Read (Option CharSet) := do
    set start
    return none
  match start.rest with
  | '[' :: ':' :: rest =>
    let (negated, rest) :=
      match rest with
      | '^' :: rest => (true, rest)
      | rest => (false, rest)
    let name := rest.takeWhile (· ≠ ':')
    match rest.dropWhile (· ≠ ':'), namedClass? name with
    | ':' :: ']' :: rest, some s =>
      set { start with rest := rest }
      return some (← byteSet (negateIf negated (foldUnder start.flags s)))
    | _, _ => giveUp
  | _ => giveUp

inductive SetOp
  | inter | diff | symmDiff

def SetOp.apply (f : Flags) (op : SetOp) (a b : CharSet) : CharSet :=
  let a := foldUnder f a
  let b := foldUnder f b
  match op with
  | .inter => .inter a b
  | .diff => .diff a b
  | .symmDiff => .symmDiff a b

/-- A class under construction: the operation that waits for its right side, and the members
read since, with the greatest number of levels they nest. -/
structure OpenClass where
  pending : Option (SetOp × CharSet × Nat) := none
  members : List CharSet := []
  height : Nat := 0

namespace OpenClass

def push (o : OpenClass) (s : CharSet) (height : Nat) : OpenClass :=
  { o with members := o.members ++ [s], height := Nat.max o.height height }

def operand (o : OpenClass) : CharSet × Nat :=
  (.unions o.members, if o.members.length ≤ 1 then o.height else o.height + 1)

def close (f : Flags) (o : OpenClass) : CharSet × Nat :=
  let (s, height) := o.operand
  match o.pending with
  | none => (s, height)
  | some (op, left, leftHeight) => (op.apply f left s, Nat.max leftHeight height + 1)

def operate (f : Flags) (o : OpenClass) (op : SetOp) : OpenClass :=
  let (left, height) := o.close f
  { pending := some (op, left, height) }

end OpenClass

def leadingDashes : Nat → Read Nat
  | 0 => return 0
  | fuel + 1 => do
    match ← peek with
    | some '-' =>
      bumpOn
      return (← leadingDashes fuel) + 1
    | some _ => return 0
    | none => fail .classUnclosed

/-- What comes after an opening bracket, up to the first member; tells whether the class is
negated. -/
def openClass : Read (Bool × OpenClass) := do
  bumpOn
  let negated ←
    match ← peek with
    | some '^' => do
      bumpOn
      pure true
    | _ => pure false
  let dashes ← leadingDashes ((← get).rest.length + 1)
  if dashes = 0 ∧ (← peek) = some ']' then
    bumpOn
    if (← peek).isNone then fail .classUnclosed
    else return (negated, ({} : OpenClass).push (.single ']') 0)
  else
    return (negated, { members := List.replicate dashes (.single '-') })

/-- The members of a class up to its closing bracket; the number counts the levels nested. -/
def classBody (fuel : Nat) (negated : Bool) (o : OpenClass) : Read (CharSet × Nat) :=
  match fuel with
  | 0 => fail .classUnclosed
  | fuel + 1 => do
    bumpSpace
    let f := (← get).flags
    match (← get).rest with
    | [] => fail .classUnclosed
    | ']' :: _ =>
      bump
      let (s, height) := o.close f
      return (← byteSet (negateIf negated (foldUnder f s)), height + 1)
    | '&' :: '&' :: _ =>
      let _ ← bumpIf ['&', '&']
      classBody fuel negated (o.operate f .inter)
    | '-' :: '-' :: _ =>
      let _ ← bumpIf ['-', '-']
      classBody fuel negated (o.operate f .diff)
    | '~' :: '~' :: _ =>
      let _ ← bumpIf ['~', '~']
      classBody fuel negated (o.operate f .symmDiff)
    | '[' :: _ =>
      match ← namedMember with
      | some s => classBody fuel negated (o.push s 0)
      | none =>
        let (innerNegated, inner) ← openClass
        let (s, height) ← classBody fuel innerNegated inner
        classBody fuel negated (o.push s height)
    | _ :: _ =>
      let s ← memberOrRange
      classBody fuel negated (o.push s 0)

def bracketed : Read (CharSet × Nat) := do
  let (negated, o) ← openClass
  classBody ((← get).rest.length + 1) negated o

end MountSweep.Regex.Reader
