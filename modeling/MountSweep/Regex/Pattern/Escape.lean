import MountSweep.Regex.Fault
import MountSweep.Regex.Pattern.Basic
import MountSweep.Regex.Property

namespace MountSweep.Regex.Reader

/-- Where reading stands: the characters left, the names of groups so far and the flags in
force. -/
structure State where
  rest : List Char
  names : List (List Char) := []
  flags : Flags

abbrev Read := StateT State (Except Fault)

def fail {α : Type} (f : Fault) : Read α := throw f

def peek : Read (Option Char) := return (← get).rest.head?

def bump : Read Unit := modify fun s ↦ { s with rest := s.rest.drop 1 }

/-- Text without the white space and the comments in front of it. The fuel counts characters. -/
def skipBlank : Nat → List Char → List Char
  | 0, cs => cs
  | _ + 1, [] => []
  | fuel + 1, c :: rest =>
    if Unicode.isSpace c then skipBlank fuel rest
    else if c = '#' then skipBlank fuel ((rest.dropWhile (· ≠ '\n')).drop 1)
    else c :: rest

def bumpSpace : Read Unit :=
  modify fun s ↦
    if s.flags.ignoreSpace then { s with rest := skipBlank s.rest.length s.rest } else s

def bumpOn : Read Unit := do
  bump
  bumpSpace

/-- The character after the next, where white space does not count, nor the sign of a comment; what
the comment says does. -/
def peekSecond : Read (Option Char) := do
  let s ← get
  let rest := s.rest.drop 1
  if !s.flags.ignoreSpace then return rest.head?
  else
    let beyond :=
      match rest.dropWhile Unicode.isSpace with
      | '#' :: more => more.dropWhile Unicode.isSpace
      | more => more
    return beyond.head?.or rest.head?

def bumpIf (text : List Char) : Read Bool := do
  let s ← get
  if text.isPrefixOf s.rest then
    set { s with rest := s.rest.drop text.length }
    return true
  else return false

def takeOn (fuel : Nat) (p : Char → Bool) : Read (List Char) :=
  match fuel with
  | 0 => return []
  | fuel + 1 => do
    match ← peek with
    | some c =>
      if p c then
        bumpOn
        return c :: (← takeOn fuel p)
      else return []
    | none => return []

def takeAll (p : Char → Bool) : Read (List Char) := do
  takeOn (← get).rest.length p

def isMeta (c : Char) : Bool :=
  ['\\', '.', '+', '*', '?', '(', ')', '|', '[', ']', '\x7b', '\x7d', '^', '$', '#', '&', '-',
    '~'].contains c

/-- Characters that stand for themselves after a backslash: ASCII, but no letters, digits or
angle brackets. -/
def isEscapable (c : Char) : Bool :=
  isMeta c || (c.toNat < 0x80 && !c.isAlphanum && c ≠ '<' && c ≠ '>')

def hexDigit? (c : Char) : Option Nat :=
  if c.isDigit then some (c.toNat - 48)
  else if 'a' ≤ c ∧ c ≤ 'f' then some (c.toNat - 87)
  else if 'A' ≤ c ∧ c ≤ 'F' then some (c.toNat - 55)
  else none

def hexValue (cs : List Char) : Nat :=
  cs.foldl (fun n c ↦ n * 16 + (hexDigit? c).getD 0) 0

/-- The character of a number; surrogates and numbers beyond the last character are none. -/
def charOfNat? (n : Nat) : Option Char :=
  if h : n.isValidChar then some (Char.ofNatAux n h) else none

def hexDigits : Nat → Read (List Char)
  | 0 => return []
  | n + 1 => do
    match ← peek with
    | none => fail .unexpectedEnd
    | some c =>
      if (hexDigit? c).isNone then fail .hexInvalid
      else
        bumpOn
        return c :: (← hexDigits n)

/-- What a backslash and the characters after it stand for. -/
inductive Escape
  | char (c : Char)
  | byte (c : Char)
  | look (l : Look)
  | class (s : CharSet) (negated : Bool)
  | property (s : CharSet) (negated : Bool)

/-- A character by its number, after `x`, `u` or `U`; `digits` is the count without braces. A
number of two digits after `x` may stand for a byte. -/
def hexEscape (digits : Nat) : Read Escape := do
  bumpOn
  match ← peek with
  | none => fail .unexpectedEnd
  | some '\x7b' =>
    bumpOn
    let cs ← takeAll (· ≠ '\x7d')
    if (← peek) ≠ some '\x7d' then fail .unexpectedEnd
    else if cs.any fun c ↦ (hexDigit? c).isNone then fail .hexInvalid
    else if cs = [] then fail .hexInvalid
    else
      bump
      match charOfNat? (hexValue cs) with
      | some c => return .char c
      | none => fail .hexInvalid
  | some _ =>
    let cs ← hexDigits digits
    match charOfNat? (hexValue cs) with
    | some c => return if digits = 2 then .byte c else .char c
    | none => fail .hexInvalid

def splitAtFirst (sep : List Char) : List Char → Option (List Char × List Char)
  | [] => none
  | c :: rest =>
    if sep.isPrefixOf (c :: rest) then some ([], (c :: rest).drop sep.length)
    else (splitAtFirst sep rest).map fun (a, b) ↦ (c :: a, b)

/-- A property by name, after `p` or `P`. A value may be put behind any of three signs, which all
mean the same. -/
def propertyEscape (negated : Bool) : Read Escape := do
  bumpOn
  match ← peek with
  | none => fail .unexpectedEnd
  | some '\x7b' =>
    bumpOn
    let cs ← takeAll (· ≠ '\x7d')
    if (← peek) ≠ some '\x7d' then fail .unexpectedEnd
    else
      bump
      let parts := ((splitAtFirst ['!', '='] cs).or (splitAtFirst [':'] cs)).or
        (splitAtFirst ['='] cs)
      let found :=
        match parts with
        | some (name, value) => propertyValue? (String.ofList name) (String.ofList value)
        | none => propertyNamed? (String.ofList cs)
      match found with
      | some s => return .property s negated
      | none => fail .propertyUnknown
  | some c =>
    if c = '\\' then fail .propertyUnknown
    else
      bumpOn
      match propertyNamed? (String.singleton c) with
      | some s => return .property s negated
      | none => fail .propertyUnknown

/-- The word condition after `\b` in braces, if any: braces that do not start with a letter or a
dash belong to a repetition. -/
def specialBoundary (ascii : Bool) : Read (Option Look) := do
  if (← peek) ≠ some '\x7b' then return none
  else
    let start ← get
    let isNamePart : Char → Bool := fun c ↦ c.isAlpha || c == '-'
    bumpOn
    match ← peek with
    | none => fail .unexpectedEnd
    | some c =>
      if !isNamePart c then
        set start
        return none
      else
        let name ← takeAll isNamePart
        if (← peek) ≠ some '\x7d' then fail .boundaryUnknown
        else
          bump
          match String.ofList name with
          | "start" => return some (.wordStart ascii)
          | "end" => return some (.wordEnd ascii)
          | "start-half" => return some (.wordStartHalf ascii)
          | "end-half" => return some (.wordEndHalf ascii)
          | _ => fail .boundaryUnknown

def escape : Read Escape := do
  bump
  let ascii := !(← get).flags.unicode
  match ← peek with
  | none => fail .unexpectedEnd
  | some c =>
    if c.isDigit then fail .backreference
    else if c = 'x' then hexEscape 2
    else if c = 'u' then hexEscape 4
    else if c = 'U' then hexEscape 8
    else if c = 'p' ∨ c = 'P' then propertyEscape (c = 'P')
    else
      bump
      if isEscapable c then return .char c
      else
        match c with
        | 'd' => return .class .digit false
        | 'D' => return .class .digit true
        | 's' => return .class .space false
        | 'S' => return .class .space true
        | 'w' => return .class .word false
        | 'W' => return .class .word true
        | 'a' => return .char '\x07'
        | 'f' => return .char '\x0c'
        | 't' => return .char '\t'
        | 'n' => return .char '\n'
        | 'r' => return .char '\r'
        | 'v' => return .char '\x0b'
        | 'A' => return .look .textStart
        | 'z' => return .look .textEnd
        | 'b' =>
          match ← specialBoundary ascii with
          | some l => return .look l
          | none => return .look (.wordBoundary ascii)
        | 'B' => return .look (.notWordBoundary ascii)
        | '<' => return .look (.wordStart ascii)
        | '>' => return .look (.wordEnd ascii)
        | _ => fail .escapeUnknown

end MountSweep.Regex.Reader
