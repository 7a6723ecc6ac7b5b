import MountSweep.Text.Utf8
import MountSweep.Unicode.Character

namespace MountSweep.Text.Quoted

def hexDigits (n : Nat) : List Char :=
  Nat.toDigits 16 n

/-- Whether a character would not show as itself inside quotes: it is not printable, is meant to
be ignored by renderers, or extends the grapheme before it. -/
def isHidden (c : Char) : Bool :=
  if c.toNat < 0x80 then !Unicode.isPrintable c
  else
    !Unicode.isPrintable c || Unicode.isGraphemeExtend c ||
      Unicode.hasProperty .defaultIgnorableCodePoint c

def escape (c : Char) : List Char :=
  if c = '\x00' then ['\\', '0']
  else if c = '\t' then ['\\', 't']
  else if c = '\r' then ['\\', 'r']
  else if c = '\n' then ['\\', 'n']
  else if c = '\\' then ['\\', '\\']
  else if c = '"' then ['\\', '"']
  else if isHidden c then ['\\', 'u', '\x7b'] ++ hexDigits c.toNat ++ ['\x7d']
  else [c]

def ofChars (cs : List Char) : String :=
  String.ofList (['"'] ++ cs.flatMap escape ++ ['"'])

def ofString (s : String) : String :=
  ofChars s.toList

/-- A malformed byte between quotes: a backslash, `x` and two capital hexadecimal digits. -/
def escapeByte (b : UInt8) : List Char :=
  let digit := fun n ↦ (Nat.digitChar n).toUpper
  ['\\', 'x', digit (b.toNat / 16), digit (b.toNat % 16)]

/-- The bytes decoded from a state on and written between quotes; `held` are the bytes of the
character begun. -/
def escapeBytes : Utf8.State → Bytes → Bytes → List Char
  | _, held, [] => held.flatMap escapeByte
  | state, held, b :: rest =>
    match Utf8.step state b with
    | ([c], .between) =>
      if c = Utf8.replacement ∧ held = [] then escapeByte b ++ escapeBytes .between [] rest
      else escape c ++ escapeBytes .between [] rest
    | ([], next) => escapeBytes next (held ++ [b]) rest
    | (_ :: out, next) =>
      held.flatMap escapeByte ++
        match out, next with
        | [c], .between =>
          (if c = Utf8.replacement then escapeByte b else escape c) ++
            escapeBytes .between [] rest
        | _, next => escapeBytes next [b] rest

/-- A byte string between double quotes: its text, and every malformed byte by its number. -/
def ofBytes (bs : Bytes) : String :=
  String.ofList (['"'] ++ escapeBytes .between [] bs ++ ['"'])

def ofList (ss : List String) : String :=
  "[" ++ ", ".intercalate (ss.map ofString) ++ "]"

end MountSweep.Text.Quoted
