import MountSweep.Shell.Syntax
import MountSweep.Text.Letters

namespace MountSweep.Shell

/-- What is left of a script, and the number of its line. -/
structure Source where
  rest : List Char
  line : Nat := 1

/-- What is wrong with a script, and in which line. -/
structure Fault where
  line : Nat
  text : String
  deriving DecidableEq, Repr

abbrev Parse := StateT Source (Except Fault)

inductive Token
  | word (w : Word) (bare : Option Bytes)
  | operator (text : String)
  | descriptor (n : Nat)
  | newline
  | finish

namespace Parse

def fail (text : String) : Parse α := do
  throw ⟨(← get).line, text⟩

def rest : Parse (List Char) := return (← get).rest

def skip (n : Nat) : Parse Unit :=
  modify fun s ↦
    { rest := s.rest.drop n, line := s.line + (s.rest.take n).countP (· = '\n') }

def takeWhile (p : Char → Bool) : Parse (List Char) := do
  let cs := (← rest).takeWhile p
  skip cs.length
  return cs

end Parse

def isDelimiter (c : Char) : Bool :=
  [' ', '\t', '\n', ';', '&', '|', '<', '>', '(', ')'].contains c

def isNameStart (c : Char) : Bool := c.isAlpha || c = '_'

def isNameChar (c : Char) : Bool := c.isAlphanum || c = '_'

def isSpecialName (c : Char) : Bool :=
  ['@', '*', '#', '?', '$', '!', '-'].contains c

inductive Ending
  | delimiter | quote | brace
  | whole
  deriving DecidableEq

/-- The number of characters before the parenthesis that closes `depth` open ones and one more;
quoted ones do not count. -/
def lengthToClosing (depth : Nat) (quote : Option Char) : List Char → Option Nat
  | [] => none
  | '\\' :: c :: rest =>
    if quote = some '\'' then (lengthToClosing depth quote (c :: rest)).map (· + 1)
    else (lengthToClosing depth quote rest).map (· + 2)
  | c :: rest =>
    match quote with
    | some q => (lengthToClosing depth (if c = q then none else quote) rest).map (· + 1)
    | none =>
      if c = '\'' || c = '"' then (lengthToClosing depth (some c) rest).map (· + 1)
      else if c = '(' then (lengthToClosing (depth + 1) none rest).map (· + 1)
      else if c = ')' then
        match depth with
        | 0 => some 0
        | depth + 1 => (lengthToClosing depth none rest).map (· + 1)
      else (lengthToClosing depth none rest).map (· + 1)

/-- The script between two backquotes, of which the first is taken, and what comes after it. -/
def backquoted : List Char → Option (List Char × List Char)
  | [] => none
  | '\x60' :: rest => some ([], rest)
  | '\\' :: c :: rest =>
    let here := if ['\x60', '$', '\\'].contains c then [c] else ['\\', c]
    (backquoted rest).map fun (script, after) ↦ (here ++ script, after)
  | c :: rest => (backquoted rest).map fun (script, after) ↦ (c :: script, after)

def addText (quoted : Bool) (cs : List Char) (acc : List Piece) : List Piece :=
  match acc with
  | .text q bs :: more =>
    if q = quoted then .text q (bs ++ Bytes.ofLetters cs) :: more
    else .text quoted (Bytes.ofLetters cs) :: acc
  | _ => .text quoted (Bytes.ofLetters cs) :: acc

def bracedName : Parse (List Char) := do
  match ← Parse.rest with
  | c :: _ =>
    if isNameStart c then Parse.takeWhile isNameChar
    else if c.isDigit then Parse.takeWhile Char.isDigit
    else if isSpecialName c then
      Parse.skip 1
      return [c]
    else return []
  | [] => Parse.fail "Missing '\x7d'"

/-- The sign that says what becomes of a parameter. -/
inductive Sign
  | plain
  | word (use : List Piece → Use)
  | cut (front longest : Bool)
  | wrong

def sign : Parse Sign := do
  let orEmpty := (← Parse.rest).head? = some ':'
  if orEmpty then Parse.skip 1
  let take (n : Nat) (s : Sign) : Parse Sign := do
    Parse.skip n
    return s
  let cut (n : Nat) (front longest : Bool) : Parse Sign :=
    if orEmpty then return .wrong else take n (.cut front longest)
  match ← Parse.rest with
  | '-' :: _ => take 1 (.word (.orWord orEmpty))
  | '=' :: _ => take 1 (.word (.assign orEmpty))
  | '+' :: _ => take 1 (.word (.ifSet orEmpty))
  | '?' :: _ => take 1 (.word (.require orEmpty))
  | '%' :: '%' :: _ => cut 2 false true
  | '%' :: _ => cut 1 false false
  | '#' :: '#' :: _ => cut 2 true true
  | '#' :: _ => cut 1 true false
  | '\x7d' :: _ => return if orEmpty then .wrong else .plain
  | [] => Parse.fail "Missing '\x7d'"
  | _ => return .wrong

def closeBrace : Parse Unit := do
  match ← Parse.rest with
  | '\x7d' :: _ => Parse.skip 1
  | _ => Parse.fail "Missing '\x7d'"

mutual

/-- The pieces of a word up to where it ends, which is not taken; `acc` are those read before,
last first. -/
def pieces (ending : Ending) (quoted : Bool) : Nat → List Piece → Parse (List Piece)
  | 0, acc => return acc.reverse
  | fuel + 1, acc => do
    match ← Parse.rest with
    | [] => if ending = .quote then Parse.fail "Unterminated quoted string" else return acc.reverse
    | '\\' :: '\n' :: _ =>
      Parse.skip 2
      pieces ending quoted fuel acc
    | ['\\'] =>
      Parse.skip 1
      pieces ending quoted fuel (addText true ['\\'] acc)
    | '\\' :: c :: _ =>
      Parse.skip 2
      let special := ['$', '\x60', '\\'].contains c || (ending ≠ .whole && c = '"') ||
        (ending = .brace && c = '\x7d')
      pieces ending quoted fuel
        (addText true (if quoted && !special then ['\\', c] else [c]) acc)
    | '"' :: _ =>
      if ending = .quote then return acc.reverse
      Parse.skip 1
      if ending = .whole then
        return ← pieces ending quoted fuel (addText true ['"'] acc)
      let inner ← pieces .quote true fuel []
      Parse.skip 1
      let inner := if inner.isEmpty then [.text true []] else inner
      pieces ending quoted fuel (inner.reverse ++ acc)
    | '\'' :: more =>
      if quoted then
        Parse.skip 1
        pieces ending quoted fuel (addText true ['\''] acc)
      else
        let cs := more.takeWhile (· ≠ '\'')
        if cs.length = more.length then Parse.fail "Unterminated quoted string"
        Parse.skip (cs.length + 2)
        pieces ending quoted fuel (addText true cs acc)
    | '\x60' :: rest =>
      match backquoted rest with
      | none => Parse.fail "EOF in backquote substitution"
      | some (script, after) =>
        Parse.skip (rest.length + 1 - after.length)
        pieces ending quoted fuel (.script quoted script :: acc)
    | '$' :: _ =>
      Parse.skip 1
      let p ← parameter quoted fuel
      match p with
      | some p => pieces ending quoted fuel (p :: acc)
      | none => pieces ending quoted fuel (addText quoted ['$'] acc)
    | c :: _ =>
      if (ending = .delimiter && isDelimiter c) || (ending = .brace && c = '\x7d') then
        return acc.reverse
      Parse.skip 1
      pieces ending quoted fuel (addText quoted [c] acc)

def parameter (quoted : Bool) : Nat → Parse (Option Piece)
  | 0 => return none
  | fuel + 1 => do
    let named (cs : List Char) : Option Piece :=
      some (.parameter quoted (Bytes.ofLetters cs) .plain)
    match ← Parse.rest with
    | '\x7b' :: '#' :: '\x7d' :: _ =>
      Parse.skip 3
      return named ['#']
    | '\x7b' :: '#' :: _ =>
      Parse.skip 2
      let name ← bracedName
      closeBrace
      return some (.parameter quoted (Bytes.ofLetters name) .length)
    | '\x7b' :: _ =>
      Parse.skip 1
      let name ← bracedName
      let found ← if name.isEmpty then pure Sign.wrong else sign
      let use ←
        match found with
        | .plain => pure .plain
        | .wrong =>
          let _ ← pieces .brace true fuel []
          pure .wrong
        | .word use => use <$> pieces .brace quoted fuel []
        | .cut front longest => .cut front longest <$> pieces .brace false fuel []
      closeBrace
      return some (.parameter quoted (Bytes.ofLetters name) use)
    | '(' :: '(' :: rest =>
      match lengthToClosing 1 none rest with
      | none => Parse.fail "Missing '))'"
      | some n =>
        let line := (← get).line
        Parse.skip (n + 3)
        let text := rest.take (n - 1)
        match (pieces .whole true fuel []).run { rest := text, line } with
        | .ok (word, _) => return some (.arithmetic quoted word)
        | .error f => throw f
    | '(' :: rest =>
      match lengthToClosing 0 none rest with
      | none => Parse.fail "end of file unexpected (expecting \")\")"
      | some n =>
        Parse.skip (n + 2)
        return some (.script quoted (rest.take n))
    | c :: _ =>
      if isNameStart c then return named (← Parse.takeWhile isNameChar)
      else if c.isDigit || isSpecialName c then
        Parse.skip 1
        return named [c]
      else return none
    | [] => return none

end

def bareText : Word → Option Bytes
  | [] => some []
  | .text false bs :: rest => (bareText rest).map (bs ++ ·)
  | _ => none

def skipBlanks : Nat → Parse Unit
  | 0 => return ()
  | fuel + 1 => do
    match ← Parse.rest with
    | '\\' :: '\n' :: _ =>
      Parse.skip 2
      skipBlanks fuel
    | '#' :: _ =>
      let _ ← Parse.takeWhile (· ≠ '\n')
    | c :: _ =>
      if c = ' ' || c = '\t' then
        Parse.skip 1
        skipBlanks fuel
    | [] => return ()

def longOperators : List String := ["<<-", "&&", "||", ";;", ">>", ">&", "<<", "<&", "<>", ">|"]

def token : Parse Token := do
  skipBlanks ((← Parse.rest).length + 1)
  let cs ← Parse.rest
  match cs with
  | [] => return .finish
  | '\n' :: _ =>
    Parse.skip 1
    return .newline
  | c :: _ =>
    match longOperators.find? fun op ↦ op.toList.isPrefixOf cs with
    | some op =>
      Parse.skip op.length
      return .operator op
    | none =>
      if isDelimiter c then
        Parse.skip 1
        return .operator (String.singleton c)
      let digits := cs.takeWhile Char.isDigit
      match cs.drop digits.length with
      | d :: _ =>
        if !digits.isEmpty && (d = '<' || d = '>') then
          Parse.skip digits.length
          return .descriptor ((Bytes.toNat? (Bytes.ofLetters digits)).getD 0)
      | [] => pure ()
      let w ← pieces .delimiter false (2 * cs.length + 2) []
      return .word w (bareText w)

/-- The lines of a document up to the line that ends it, and what comes after that. -/
def splitDocument (tabs : Bool) (delimiter : List Char) :
    Nat → List Char → List Char × List Char
  | 0, rest => ([], rest)
  | fuel + 1, rest =>
    if rest.isEmpty then ([], [])
    else
      let line := rest.takeWhile (· ≠ '\n')
      let after := rest.drop (line.length + 1)
      let line := if tabs then line.dropWhile (· = '\t') else line
      if line = delimiter then ([], after)
      else
        let (more, after) := splitDocument tabs delimiter fuel after
        (line ++ '\n' :: more, after)

def isQuoted (w : Word) : Bool :=
  w.any fun
    | .text quoted _ => quoted
    | _ => false

/-- The document that begins after the current line; it is taken out of the script. -/
def document (tabs : Bool) (delimiter : Word) : Parse Word := do
  let s ← get
  let name := delimiter.flatMap fun
    | .text _ bs => Bytes.letters bs
    | _ => []
  let line := s.rest.takeWhile (· ≠ '\n')
  let below := s.rest.drop (line.length + 1)
  let (text, after) := splitDocument tabs name (below.length + 1) below
  set { s with rest := line ++ '\n' :: after }
  if isQuoted delimiter then return [.text true (Bytes.ofLetters text)]
  else
    match (pieces .whole true (2 * text.length + 2) []).run { rest := text, line := s.line } with
    | .ok (w, _) => return w
    | .error f => throw f

def peek : Parse Token := do
  let s ← get
  let t ← token
  set s
  return t

end MountSweep.Shell
