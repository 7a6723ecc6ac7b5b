import MountSweep.Yaml.Token

namespace MountSweep.Yaml

namespace Lexer

/-- A place in the text: its index counts bytes, its column characters. -/
structure Mark where
  index : Nat := 0
  line : Nat := 0
  column : Nat := 0
  deriving DecidableEq, Repr, Inhabited

def byteIndex (start : Nat) (cs : List Char) : Nat := cs.foldl (fun n c ↦ n + c.utf8Size) start

def Mark.past (m : Mark) (cs : List Char) : Mark :=
  { m with index := byteIndex m.index cs, column := m.column + cs.length }

def Mark.pastBreak (m : Mark) (cs : List Char) : Mark :=
  ⟨byteIndex m.index cs, m.line + 1, 0⟩

/-- A token that may be the key of a mapping: its number, its place, and whether nothing else
may stand there. -/
structure SimpleKey where
  required : Bool
  number : Nat
  mark : Mark
  deriving DecidableEq, Repr

/-- Where reading stands. `indent` is the column of the innermost block collection, the margin
being left of all columns; the keys are those of the flow collections around, innermost
first. -/
structure State where
  rest : List Char
  mark : Mark := {}
  tokens : Array Token := #[]
  indent : Int := -1
  indents : List Int := []
  flowLevel : Nat := 0
  keyAllowed : Bool := true
  key : Option SimpleKey := none
  outerKeys : List (Option SimpleKey) := []

abbrev Lex := StateT State (Except Fault)

def fail {α : Type} (f : Fault) : Lex α := throw f

def isAllowed (c : Char) : Bool :=
  let n := c.toNat
  n = 0x09 || n = 0x0A || n = 0x0D || (0x20 ≤ n && n ≤ 0x7E) || n = 0x85 ||
    (0xA0 ≤ n && n ≤ 0xD7FF) || (0xE000 ≤ n && n ≤ 0xFFFD) || 0x10000 ≤ n

def isBlank (c : Char) : Bool := c = ' ' || c = '\t'

def isBreak (c : Char) : Bool :=
  c = '\r' || c = '\n' || c = '\u0085' || c = '\u2028' || c = '\u2029'

def isNameChar (c : Char) : Bool := c.isAlphanum || c = '_' || c = '-'

def isBlankOrEnd : List Char → Bool
  | [] => true
  | c :: _ => isBlank c || isBreak c

def isBreakOrEnd : List Char → Bool
  | [] => true
  | c :: _ => isBreak c

def rest : Lex (List Char) := return (← get).rest

def nextIs (p : Char → Bool) : Lex Bool := return (← rest).head?.any p

def skip (n : Nat) : Lex Unit :=
  modify fun s ↦ { s with rest := s.rest.drop n, mark := s.mark.past (s.rest.take n) }

def takeWhile (p : Char → Bool) : Lex (List Char) := do
  let taken := (← rest).takeWhile p
  skip taken.length
  return taken

/-- Takes the line break in front, if any, and gives it as it counts in a scalar. -/
def takeBreak : Lex (List Char) := do
  let s ← get
  let advance := fun (taken rest : List Char) ↦
    set { s with rest := rest, mark := s.mark.pastBreak taken }
  match s.rest with
  | '\r' :: '\n' :: rest =>
    advance ['\r', '\n'] rest
    return ['\n']
  | c :: rest =>
    if c = '\r' ∨ c = '\n' ∨ c = '\u0085' then
      advance [c] rest
      return ['\n']
    else if isBreak c then
      advance [c] rest
      return [c]
    else return []
  | [] => return []

def atIndicator : Lex Bool := do
  let s ← get
  match s.rest with
  | a :: b :: c :: rest =>
    return s.mark.column = 0 &&
      ((a = '-' && b = '-' && c = '-') || (a = '.' && b = '.' && c = '.')) && isBlankOrEnd rest
  | _ => return false

def emit (t : Token) : Lex Unit := modify fun s ↦ { s with tokens := s.tokens.push t }

def insert (number : Nat) (t : Token) : Lex Unit :=
  modify fun s ↦ { s with tokens := s.tokens.insertIdxIfInBounds number t }

def openBlock (column : Nat) (number : Option Nat) (t : Token) : Lex Unit := do
  let s ← get
  if s.flowLevel = 0 ∧ s.indent < column then
    set { s with indents := s.indent :: s.indents, indent := column }
    match number with
    | some n => insert n t
    | none => emit t

/-- Closes the block collections right of a column; `open_` are those around the current one. -/
def closeBlocks (column : Int) (open_ : List Int) : Lex Unit := do
  let s ← get
  if s.flowLevel = 0 ∧ column < s.indent then
    match open_ with
    | [] => set { s with indent := -1, indents := [], tokens := s.tokens.push .blockEnd }
    | outer :: more =>
      set { s with indent := outer, indents := more, tokens := s.tokens.push .blockEnd }
      closeBlocks column more

def unrollTo (column : Int) : Lex Unit := do closeBlocks column (← get).indents

def dropKey : Lex Unit := do
  match (← get).key with
  | some k => if k.required then fail .expectedColon else modify fun s ↦ { s with key := none }
  | none => return ()

def saveKey : Lex Unit := do
  let s ← get
  if s.keyAllowed then
    let required := s.flowLevel = 0 && s.indent = s.mark.column
    dropKey
    modify fun t ↦ { t with key := some ⟨required, s.tokens.size, s.mark⟩ }

/-- Whether a key remembered at `k` is out of reach: keys end on their line, and no more than 1024
bytes behind where they begin. -/
def isStale (here : Mark) (k : SimpleKey) : Bool :=
  k.mark.line < here.line || k.mark.index + 1024 < here.index

def dropStaleKeys : Lex Unit := do
  let s ← get
  let stale := fun (k : Option SimpleKey) ↦ k.any (isStale s.mark)
  let keys := s.key :: s.outerKeys
  if keys.any stale then
    if keys.any fun k ↦ stale k && k.any (·.required) then fail .expectedColon
    else
      let keep := fun (k : Option SimpleKey) ↦ if stale k then none else k
      set { s with key := keep s.key, outerKeys := s.outerKeys.map keep }

def allowKey (b : Bool) : Lex Unit := modify fun s ↦ { s with keyAllowed := b }

/-- Skips white space, comments, line breaks, and the mark of the byte order where it begins a line,
which takes up a column. A tab may stand only where no key may start. -/
def skipToToken : Nat → Lex Unit
  | 0 => return ()
  | fuel + 1 => do
    let s ← get
    if s.mark.column = 0 ∧ s.rest.head? = some '\ufeff' then skip 1
    let tabs := s.flowLevel ≠ 0 || !s.keyAllowed
    let _ ← takeWhile fun c ↦ c = ' ' || (tabs && c = '\t')
    if ← nextIs (· = '#') then let _ ← takeWhile fun c ↦ !isBreak c
    if ← nextIs isBreak then
      let _ ← takeBreak
      if (← get).flowLevel = 0 then allowKey true
      skipToToken fuel

def directiveRest : Lex Unit := do
  let _ ← takeWhile isBlank
  if ← nextIs (· = '#') then let _ ← takeWhile fun c ↦ !isBreak c
  if isBreakOrEnd (← rest) then let _ ← takeBreak else fail .directiveRest

def versionNumber : Lex Nat := do
  let digits ← takeWhile Char.isDigit
  if digits = [] ∨ 9 < digits.length then fail .directiveVersion
  else return digits.foldl (fun n c ↦ n * 10 + (c.toNat - 48)) 0

def tagHandle (inDirective : Bool) : Lex (List Char) := do
  if !(← nextIs (· = '!')) then fail .tagHandle
  else
    skip 1
    let name ← takeWhile isNameChar
    if ← nextIs (· = '!') then
      skip 1
      return '!' :: name ++ ['!']
    else if inDirective ∧ name ≠ [] then fail .tagHandle
    else return '!' :: name

def hexDigit? (c : Char) : Option Nat :=
  if c.isDigit then some (c.toNat - 48)
  else if 'a' ≤ c ∧ c ≤ 'f' then some (c.toNat - 87)
  else if 'A' ≤ c ∧ c ≤ 'F' then some (c.toNat - 55)
  else none

def uriByte : Lex UInt8 := do
  match ← rest with
  | '%' :: a :: b :: _ =>
    match hexDigit? a, hexDigit? b with
    | some x, some y =>
      skip 3
      return UInt8.ofNat (x * 16 + y)
    | _, _ => fail .tagUri
  | _ => fail .tagUri

def continuationCount? (first : UInt8) : Option Nat :=
  if first < 0x80 then some 0
  else if 0xC0 ≤ first ∧ first < 0xE0 then some 1
  else if 0xE0 ≤ first ∧ first < 0xF0 then some 2
  else if 0xF0 ≤ first ∧ first < 0xF8 then some 3
  else none

def uriContinuation : Nat → Lex Bytes
  | 0 => return []
  | n + 1 => do
    let b ← uriByte
    if 0x80 ≤ b ∧ b < 0xC0 then return b :: (← uriContinuation n) else fail .tagUri

/-- The bytes of an escaped character. Only their number is looked at, not what they encode. -/
def uriEscape : Lex Bytes := do
  let first ← uriByte
  match continuationCount? first with
  | some n => return first :: (← uriContinuation n)
  | none => fail .tagUri

def isUriChar (verbatim : Bool) (c : Char) : Bool :=
  isNameChar c ||
    [';', '/', '?', ':', '@', '&', '=', '+', '$', '.', '!', '~', '*', '\'', '(', ')'].contains c ||
    (verbatim && (c = ',' || c = '[' || c = ']'))

def uriBytes (verbatim : Bool) : Nat → Lex Bytes
  | 0 => return []
  | fuel + 1 => do
    match ← rest with
    | '%' :: _ =>
      let bs ← uriEscape
      return bs ++ (← uriBytes verbatim fuel)
    | c :: _ =>
      if isUriChar verbatim c then
        skip 1
        return Bytes.ofChars [c] ++ (← uriBytes verbatim fuel)
      else return []
    | [] => return []

/-- An address that goes on after `head`, whose exclamation mark in front does not belong to it. It
ends before its first zero byte. -/
def tagUri (fuel : Nat) (verbatim : Bool) (head : List Char) : Lex Bytes := do
  let bs ← uriBytes verbatim fuel
  if head = [] ∧ bs = [] then fail .tagUri
  else return (Bytes.ofChars (head.drop 1) ++ bs).takeWhile (· ≠ 0)

def directive (fuel : Nat) : Lex Unit := do
  unrollTo (-1)
  dropKey
  allowKey false
  skip 1
  let name ← takeWhile isNameChar
  if name = [] ∨ !isBlankOrEnd (← rest) then fail .directiveName
  else if name = "YAML".toList then
    let _ ← takeWhile isBlank
    let major ← versionNumber
    if !(← nextIs (· = '.')) then fail .directiveVersion
    else
      skip 1
      let minor ← versionNumber
      emit (.versionDirective major minor)
      directiveRest
  else if name = "TAG".toList then
    let _ ← takeWhile isBlank
    let handle ← tagHandle true
    if !(← nextIs isBlank) then fail .tagEnd
    else
      let _ ← takeWhile isBlank
      let start ← tagUri fuel true []
      if !isBlankOrEnd (← rest) then fail .tagEnd
      else
        emit (.tagDirective handle start)
        directiveRest
  else fail .directiveName

def anchorName : Lex (List Char) := do
  skip 1
  let name ← takeWhile isNameChar
  let ends :=
    match ← rest with
    | [] => true
    | c :: _ =>
      isBlank c || isBreak c || ['?', ':', ',', ']', '\x7d', '%', '@', '\x60'].contains c
  if name = [] ∨ !ends then fail .anchorName else return name

def tag (fuel : Nat) : Lex Unit := do
  let (handle, suffix) ←
    match ← rest with
    | _ :: '<' :: _ => do
      skip 2
      let suffix ← tagUri fuel true []
      if ← nextIs (· = '>') then
        skip 1
        pure ([], suffix)
      else fail .tagUri
    | _ => do
      let handle ← tagHandle false
      if 1 < handle.length ∧ handle.getLast? = some '!' then
        pure (handle, ← tagUri fuel false [])
      else
        let suffix ← tagUri fuel false handle
        pure (if suffix = [] then ([], Bytes.ofString "!") else (['!'], suffix))
  let ends := isBlankOrEnd (← rest) || ((← get).flowLevel ≠ 0 && (← nextIs (· = ',')))
  if ends then emit (.tag handle suffix) else fail .tagEnd

/-- Line breaks between two lines of a scalar, folded: a single break becomes a blank, and of
several the first is dropped. -/
def foldBreaks (first more : List Char) : List Char :=
  if first.head? = some '\n' then if more = [] then [' '] else more else first ++ more

/-- The indentation and the empty lines in front of a line of a block scalar: the line breaks,
the greatest column reached, and the column where the line starts. -/
def blockBreaks (indent : Nat) : Nat → Nat → Lex (List Char × Nat)
  | 0, deepest => return ([], deepest)
  | fuel + 1, deepest => do
    let column := (← get).mark.column
    let _ ←
      if indent = 0 then takeWhile (· = ' ')
      else do
        let blanks := ((← rest).take (indent - column)).takeWhile (· = ' ')
        skip blanks.length
        pure blanks
    let column := (← get).mark.column
    let deepest := Nat.max deepest column
    if (indent = 0 ∨ column < indent) ∧ (← nextIs (· = '\t')) then fail .tabInIndentation
    else if ← nextIs isBreak then
      let b ← takeBreak
      let (more, deepest) ← blockBreaks indent fuel deepest
      return (b ++ more, deepest)
    else return ([], deepest)

/-- What was read of a block scalar: its text, last character first, the last line break, the empty
lines after it, and whether the last line began with a blank. -/
structure BlockLines where
  text : List Char := []
  last : List Char := []
  empty : List Char := []
  blankStart : Bool := false

def blockLines (isLiteral : Bool) (indent : Nat) : Nat → BlockLines → Lex BlockLines
  | 0, b => return b
  | fuel + 1, b => do
    let s ← get
    if s.mark.column ≠ indent ∨ s.rest = [] then return b
    else
      let blank ← nextIs isBlank
      let joint :=
        if !isLiteral && b.last.head? = some '\n' && !b.blankStart && !blank then
          if b.empty = [] then [' '] else b.empty
        else b.last ++ b.empty
      let line ← takeWhile fun c ↦ !isBreak c
      let last ← takeBreak
      let (empty, _) ← blockBreaks indent fuel 0
      let text := line.reverse ++ (joint.reverse ++ b.text)
      blockLines isLiteral indent fuel ⟨text, last, empty, blank⟩

/-- What is done with the line breaks at the end of a block scalar. -/
inductive Chomping
  | strip | clip | keep

def chomping : Lex (Option Chomping) := do
  if ← nextIs (· = '+') then
    skip 1
    return some .keep
  else if ← nextIs (· = '-') then
    skip 1
    return some .strip
  else return none

def indentation : Lex (Option Nat) := do
  match ← rest with
  | c :: _ =>
    if c = '0' then fail .zeroIndentation
    else if c.isDigit then
      skip 1
      return some (c.toNat - 48)
    else return none
  | [] => return none

def blockScalar (fuel : Nat) (isLiteral : Bool) : Lex Unit := do
  dropKey
  allowKey true
  skip 1
  let (chomp, increment) ←
    match ← chomping with
    | some c => pure (some c, ← indentation)
    | none =>
      match ← indentation with
      | some n => pure (← chomping, some n)
      | none => pure (none, none)
  let _ ← takeWhile isBlank
  if ← nextIs (· = '#') then let _ ← takeWhile fun c ↦ !isBreak c
  if !isBreakOrEnd (← rest) then fail .blockScalarHead
  else
    let _ ← takeBreak
    let outer := (← get).indent
    let given := (increment.map fun n ↦ (if 0 ≤ outer then outer.toNat else 0) + n).getD 0
    let (empty, deepest) ← blockBreaks given fuel 0
    let indent :=
      if given = 0 then Nat.max deepest (Nat.max (outer + 1).toNat 1) else given
    let b ← blockLines isLiteral indent fuel { empty := empty }
    let text :=
      match chomp.getD .clip with
      | .strip => b.text.reverse
      | .clip => b.text.reverse ++ b.last
      | .keep => b.text.reverse ++ b.last ++ b.empty
    emit (.scalar text (if isLiteral then .literal else .folded))

def escapeValue (n : Nat) : Lex (List Char) := do
  let digits := (← rest).take n
  if digits.length < n ∨ digits.any fun c ↦ (hexDigit? c).isNone then fail .escapeDigits
  else
    let value := digits.foldl (fun v c ↦ v * 16 + (hexDigit? c).getD 0) 0
    if h : value.isValidChar then
      skip n
      return [Char.ofNatAux value h]
    else fail .escapeCharacter

def quotedEscape (c : Char) : Lex (List Char) := do
  skip 1
  match c with
  | '0' => return ['\x00']
  | 'a' => return ['\x07']
  | 'b' => return ['\x08']
  | 't' | '\t' => return ['\t']
  | 'n' => return ['\n']
  | 'v' => return ['\x0b']
  | 'f' => return ['\x0c']
  | 'r' => return ['\r']
  | 'e' => return ['\x1b']
  | ' ' => return [' ']
  | '"' => return ['"']
  | '/' => return ['/']
  | '\\' => return ['\\']
  | 'N' => return ['\u0085']
  | '_' => return ['\u00a0']
  | 'L' => return ['\u2028']
  | 'P' => return ['\u2029']
  | 'x' => escapeValue 2
  | 'u' => escapeValue 4
  | 'U' => escapeValue 8
  | _ => fail .unknownEscape

/-- Characters of a quoted scalar up to a blank, a line break or its end, put in front of those
before them, last first; tells whether an escaped line break ended them. -/
def quotedChars (double : Bool) : Nat → List Char → Lex (List Char × Bool)
  | 0, acc => return (acc, false)
  | fuel + 1, acc => do
    match ← rest with
    | [] => return (acc, false)
    | c :: more =>
      if isBlank c || isBreak c then return (acc, false)
      else if !double && c = '\'' then
        if more.head? = some '\'' then
          skip 2
          quotedChars double fuel ('\'' :: acc)
        else return (acc, false)
      else if double && c = '"' then return (acc, false)
      else if double && c = '\\' then
        match more with
        | [] => fail .unknownEscape
        | e :: _ =>
          skip 1
          if isBreak e then
            let _ ← takeBreak
            return (acc, true)
          else quotedChars double fuel ((← quotedEscape e).reverse ++ acc)
      else
        skip 1
        quotedChars double fuel (c :: acc)

/-- White space inside a scalar: blanks while still on the line, the first line break, the other
ones, and whether a line break was met at all. -/
structure Gap where
  blanks : List Char := []
  first : List Char := []
  more : List Char := []
  broken : Bool := false

def Gap.text (g : Gap) : List Char :=
  if g.broken then foldBreaks g.first g.more else g.blanks

/-- White space inside a scalar. Where `margin` is given, a tab left of it is refused after a
line break. -/
def gap (margin : Option Int) : Nat → Gap → Lex Gap
  | 0, g => return g
  | fuel + 1, g => do
    match ← rest with
    | [] => return g
    | c :: _ =>
      if isBlank c then
        let column := (← get).mark.column
        if g.broken ∧ c = '\t' ∧ (margin.any fun m ↦ (column : Int) < m) then fail .tabInIndentation
        else
          skip 1
          gap margin fuel (if g.broken then g else { g with blanks := g.blanks ++ [c] })
      else if isBreak c then
        let b ← takeBreak
        gap margin fuel
          (if g.broken then { g with more := g.more ++ b }
           else { g with blanks := [], first := b, broken := true })
      else return g

/-- The text of a quoted scalar after its opening quote; `acc` is what was read of it, last
first. -/
def quotedText (double : Bool) : Nat → List Char → Lex (List Char)
  | 0, _ => fail .endInQuotes
  | fuel + 1, acc => do
    if ← atIndicator then fail .indicatorInQuotes
    else if (← rest) = [] then fail .endInQuotes
    else
      let (acc, escaped) ← quotedChars double (fuel + 1) acc
      if ← nextIs (· = if double then '"' else '\'') then
        skip 1
        return acc.reverse
      else
        let g ← gap none (fuel + 1) { broken := escaped }
        quotedText double fuel (g.text.reverse ++ acc)

def quotedScalar (fuel : Nat) (double : Bool) : Lex Unit := do
  saveKey
  allowKey false
  skip 1
  let text ← quotedText double fuel []
  emit (.scalar text (if double then .doubleQuoted else .singleQuoted))

/-- Characters of a plain scalar up to white space or its end, put in front of those before them,
last first. -/
def plainChars (inFlow : Bool) : Nat → List Char → Lex (List Char)
  | 0, acc => return acc
  | fuel + 1, acc => do
    match ← rest with
    | [] => return acc
    | c :: more =>
      if isBlank c || isBreak c then return acc
      else if inFlow && c = ':' &&
          more.head?.any fun d ↦ [',', '?', '[', ']', '\x7b', '\x7d'].contains d then
        fail .colonInFlow
      else if c = ':' && isBlankOrEnd more then return acc
      else if inFlow && [',', '[', ']', '\x7b', '\x7d'].contains c then return acc
      else
        skip 1
        plainChars inFlow fuel (c :: acc)

/-- The text of a plain scalar, and whether it ended on a line of its own; `joint` is the white
space before its next part and `acc` what was read of it, last first. -/
def plainText (inFlow : Bool) (margin : Int) : Nat → List Char → Gap → Lex (List Char × Bool)
  | 0, acc, joint => return (acc.reverse, joint.broken)
  | fuel + 1, acc, joint => do
    if (← atIndicator) || (← nextIs (· = '#')) then return (acc.reverse, joint.broken)
    else
      let chars ← plainChars inFlow (fuel + 1) []
      let (acc, joint) :=
        if chars = [] then (acc, joint) else (chars ++ (joint.text.reverse ++ acc), {})
      if !(← nextIs fun c ↦ isBlank c || isBreak c) then return (acc.reverse, joint.broken)
      else
        let joint ← gap (some margin) (fuel + 1) joint
        if !inFlow && (← get).mark.column < margin then return (acc.reverse, joint.broken)
        else plainText inFlow margin fuel acc joint

def plainScalar (fuel : Nat) : Lex Unit := do
  saveKey
  allowKey false
  let s ← get
  let (text, broken) ← plainText (s.flowLevel ≠ 0) (s.indent + 1) fuel [] {}
  if broken then allowKey true
  emit (.scalar text .plain)

def documentIndicator (t : Token) : Lex Unit := do
  unrollTo (-1)
  dropKey
  allowKey false
  skip 3
  emit t

def flowStart (t : Token) : Lex Unit := do
  saveKey
  modify fun s ↦
    { s with flowLevel := s.flowLevel + 1, outerKeys := s.key :: s.outerKeys, key := none }
  allowKey true
  skip 1
  emit t

def flowEnd (t : Token) : Lex Unit := do
  dropKey
  modify fun s ↦
    if s.flowLevel = 0 then s
    else
      { s with flowLevel := s.flowLevel - 1, key := (s.outerKeys.head?).join,
               outerKeys := s.outerKeys.tail }
  allowKey false
  skip 1
  emit t

def flowEntry : Lex Unit := do
  dropKey
  allowKey true
  skip 1
  emit .flowEntry

def blockEntry : Lex Unit := do
  let s ← get
  if s.flowLevel = 0 then
    if s.keyAllowed then openBlock s.mark.column none .blockSequenceStart
    else fail .sequenceEntryHere
  dropKey
  allowKey true
  skip 1
  emit .blockEntry

def keyIndicator : Lex Unit := do
  let s ← get
  if s.flowLevel = 0 then
    if s.keyAllowed then openBlock s.mark.column none .blockMappingStart
    else fail .mappingKeyHere
  dropKey
  allowKey (s.flowLevel = 0)
  skip 1
  emit .key

def valueIndicator : Lex Unit := do
  let s ← get
  match s.key with
  | some k =>
    insert k.number .key
    openBlock k.mark.column (some k.number) .blockMappingStart
    modify fun t ↦ { t with key := none }
    allowKey false
  | none =>
    if s.flowLevel = 0 then
      if s.keyAllowed then openBlock s.mark.column none .blockMappingStart
      else fail .mappingValueHere
    allowKey (s.flowLevel = 0)
  skip 1
  emit .value

def finish : Lex Unit := do
  modify fun s ↦
    if s.mark.column = 0 then s
    else { s with mark := { s.mark with line := s.mark.line + 1, column := 0 } }
  unrollTo (-1)
  dropKey

/-- The characters that cannot begin a plain scalar: indicators and white space. -/
def isIndicator (c : Char) : Bool :=
  isBlank c || ['-', '?', ':', ',', '[', ']', '\x7b', '\x7d', '#', '&', '*', '!', '|', '>',
    '\'', '"', '%', '@', '\x60'].contains c

/-- Reads one token; tells whether the text goes on. The fuel is more than the characters left. -/
def token (fuel : Nat) : Lex Bool := do
  skipToToken fuel
  dropStaleKeys
  unrollTo (← get).mark.column
  let s ← get
  let inFlow := s.flowLevel ≠ 0
  match s.rest with
  | [] =>
    finish
    return false
  | c :: more =>
    let first := s.mark.column = 0
    let spaced := isBlankOrEnd more
    if first && c = '%' then directive fuel
    else if (← atIndicator) && c = '-' then documentIndicator .documentStart
    else if (← atIndicator) && c = '.' then documentIndicator .documentEnd
    else if c = '[' then flowStart .flowSequenceStart
    else if c = '\x7b' then flowStart .flowMappingStart
    else if c = ']' then flowEnd .flowSequenceEnd
    else if c = '\x7d' then flowEnd .flowMappingEnd
    else if c = ',' then flowEntry
    else if c = '-' && spaced then blockEntry
    else if c = '?' && (inFlow || spaced) then keyIndicator
    else if c = ':' && (inFlow || spaced) then valueIndicator
    else if c = '*' then
      saveKey
      allowKey false
      emit (.alias (← anchorName))
    else if c = '&' then
      saveKey
      allowKey false
      emit (.anchor (← anchorName))
    else if c = '!' then
      saveKey
      allowKey false
      tag fuel
    else if c = '|' && !inFlow then blockScalar fuel true
    else if c = '>' && !inFlow then blockScalar fuel false
    else if c = '\'' then quotedScalar fuel false
    else if c = '"' then quotedScalar fuel true
    else if !isIndicator c || (c = '-' && !more.head?.any isBlank) ||
        (!inFlow && (c = '?' || c = ':') && !spaced) then
      plainScalar fuel
    else fail .noTokenHere
    return true

/-- Reads tokens to the end of the text. Each takes a character, so the fuel stays above the number
of those left. -/
def tokens : Nat → Lex Unit
  | 0 => fail .unfinished
  | fuel + 1 => do if ← token fuel then tokens fuel

end Lexer

def Token.ofText? (text : List Char) : Except Fault (List Token) :=
  if text.all Lexer.isAllowed then
    ((Lexer.tokens (text.length + 2)).run { rest := text }).map fun (_, s) ↦ s.tokens.toList
  else .error .controlCharacter

end MountSweep.Yaml
