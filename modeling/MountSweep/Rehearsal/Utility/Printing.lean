import MountSweep.Rehearsal.Utility.Basic

namespace MountSweep.Rehearsal

open Posix Output

def isOctal (c : Char) : Bool := '0' ≤ c && c ≤ '7'

def octalChar (digits : List Char) : Char :=
  Char.ofNat (digits.foldl (fun n c ↦ n * 8 + (c.toNat - 48)) 0 % 256)

def plainEscapes : List (Char × Char) :=
  [('a', '\x07'), ('b', '\x08'), ('f', '\x0c'), ('n', '\n'), ('r', '\r'), ('t', '\t'),
    ('v', '\x0b'), ('\\', '\\')]

/-- Where the text of a format is escaped, and where that of an argument. -/
inductive Escaping
  | format | argument
  deriving DecidableEq, Repr

/-- The escape after a backslash: its text, or none if the output ends there, and what comes after
it. In an argument a zero may stand before an octal number. -/
def escape (e : Escaping) (cs : List Char) : Option (List Char) × List Char :=
  match cs with
  | [] => (some ['\\'], [])
  | c :: rest =>
    if c = 'c' && e = .argument then (none, rest)
    else
      match plainEscapes.lookup c with
      | some d => (some [d], rest)
      | none =>
        let start := if e = .argument && c = '0' then rest else c :: rest
        let digits := (start.take 3).takeWhile isOctal
        if isOctal c then (some [octalChar digits], start.drop digits.length)
        else (some ['\\', c], rest)

theorem length_escape_le (e : Escaping) (cs : List Char) :
    (escape e cs).2.length ≤ cs.length := by
  cases cs with
  | nil => simp [escape]
  | cons c rest =>
    simp only [escape]
    repeat' split
    all_goals simp
    all_goals omega

def unescape (kind : Escaping) (cs : List Char) : List Char × Bool :=
  match cs with
  | [] => ([], false)
  | '\\' :: rest =>
    let e := escape kind rest
    have := length_escape_le kind rest
    match e.1 with
    | none => ([], true)
    | some text =>
      let (more, ended) := unescape kind e.2
      (text ++ more, ended)
  | c :: rest =>
    let (more, ended) := unescape kind rest
    (c :: more, ended)
termination_by cs.length

def echoWith (escapes newline : Bool) (args : List Bytes) : Work Nat := do
  let text := Bytes.letters ([32].intercalate args)
  let (text, ended) := if escapes then unescape .argument text else (text, false)
  Work.say (Bytes.ofLetters text ++ if newline && !ended then [10] else [])
  return 0

def echo (c : Call) : Work Nat :=
  let isOption (a : Bytes) : Bool :=
    match Bytes.letters a with
    | '-' :: c :: cs => (c :: cs).all fun c ↦ ['n', 'e', 'E'].contains c
    | _ => false
  let letters := ((c.args.takeWhile isOption).flatMap fun a ↦ (Bytes.letters a).tail)
  let escapes := (letters.filter (· ≠ 'n')).getLast? = some 'e'
  echoWith escapes (!letters.contains 'n') (c.args.dropWhile isOption)

def shellEcho (c : Call) : Work Nat :=
  match c.args with
  | a :: rest =>
    if a = Bytes.ofString "-n" then echoWith true false rest else echoWith true true c.args
  | [] => echoWith true true []

def digitsIn (base n : Nat) : List Char := Nat.toDigits base n

def padTo (width : Nat) (left zeros : Bool) (cs : List Char) : List Char :=
  let fill := List.replicate (width - cs.length) (if zeros && !left then '0' else ' ')
  if left then cs ++ fill else fill ++ cs

/-- A conversion of a format: its flags, width and precision, and its letter. -/
structure Conversion where
  flags : List Char
  width : Nat
  precision : Option Nat
  letter : Char

def conversion? (cs : List Char) : Option (Conversion × List Char) :=
  let flags := cs.takeWhile fun c ↦ ['-', '0', '+', ' ', '#'].contains c
  let cs := cs.drop flags.length
  let width := cs.takeWhile Char.isDigit
  let cs := cs.drop width.length
  let number (ds : List Char) : Nat := (Bytes.toNat? (Bytes.ofLetters ds)).getD 0
  let (precision, cs) :=
    match cs with
    | '.' :: rest =>
      let ds := rest.takeWhile Char.isDigit
      (some (number ds), rest.drop ds.length)
    | cs => (none, cs)
  match cs with
  | c :: rest => some (⟨flags, number width, precision, c⟩, rest)
  | [] => none

def conversionLetters : List Char := ['b', 's', 'c', 'd', 'i', 'u', 'o', 'x', 'X']

/-- The number in front of a text and what comes after it; a quote makes a character its number. -/
def leadingNumber (cs : List Char) : Int × List Char :=
  match cs with
  | '"' :: c :: rest | '\'' :: c :: rest => (c.toNat, rest)
  | cs =>
    let cs := cs.dropWhile Char.isWhitespace
    let negative := cs.head? = some '-'
    let cs := if negative || cs.head? = some '+' then cs.tail else cs
    let (base, cs) :=
      match cs with
      | '0' :: 'x' :: rest | '0' :: 'X' :: rest => (16, rest)
      | '0' :: rest => (8, '0' :: rest)
      | cs => (10, cs)
    let value (c : Char) : Nat := if c.isDigit then c.toNat - 48 else c.toLower.toNat - 87
    let isDigit (c : Char) : Bool :=
      (c.isDigit || ('a' ≤ c.toLower && c.toLower ≤ 'f')) && value c < base
    let ds := cs.takeWhile isDigit
    let n : Int := ds.foldl (fun n c ↦ n * base + value c) 0
    (if negative then -n else n, cs.drop ds.length)

def numberFault? (arg : List Char) : Option String :=
  let (_, rest) := leadingNumber arg
  if arg.isEmpty || rest.isEmpty then none
  else if rest.length = arg.length then some "expected numeric value"
  else some "not completely converted"

def showNumber (k : Conversion) (n : Int) : List Char :=
  let unsigned := (n % 0x10000000000000000).toNat
  let isSigned := k.letter = 'd' || k.letter = 'i'
  let digits :=
    match k.letter with
    | 'o' => digitsIn 8 unsigned
    | 'x' => digitsIn 16 unsigned
    | 'X' => (digitsIn 16 unsigned).map Char.toUpper
    | 'u' => digitsIn 10 unsigned
    | _ => digitsIn 10 n.natAbs
  let digits := k.precision.elim digits fun p ↦ padTo p false true digits
  let sign :=
    if isSigned && n < 0 then ['-']
    else if isSigned && k.flags.contains '+' then ['+']
    else if isSigned && k.flags.contains ' ' then [' ']
    else if k.flags.contains '#' && unsigned ≠ 0 then
      match k.letter with
      | 'o' => ['0']
      | 'x' => ['0', 'x']
      | 'X' => ['0', 'X']
      | _ => []
    else []
  let left := k.flags.contains '-'
  if k.flags.contains '0' && !left && k.precision.isNone then
    sign ++ padTo (k.width - sign.length) false true digits
  else padTo k.width left false (sign ++ digits)

def convert (k : Conversion) (arg : Bytes) : List Char × Bool :=
  let cs := Bytes.letters arg
  let pad (cs : List Char) : List Char := padTo k.width (k.flags.contains '-') false cs
  let cut (cs : List Char) : List Char := k.precision.elim cs cs.take
  match k.letter with
  | 'b' =>
    let (text, ended) := unescape .argument cs
    (pad (cut text), ended)
  | 'c' => (pad (cs.take 1), false)
  | 's' => (pad (cut cs), false)
  | _ => (showNumber k (leadingNumber cs).1, false)

structure Formatted where
  text : List Char := []
  args : List Bytes
  used : Bool := false
  ended : Bool := false
  faults : List String := []
  invalid : Option String := none

def Formatted.after (text : List Char) (f : Formatted) : Formatted :=
  { f with text := text ++ f.text }

def formatOnce : Nat → List Char → List Bytes → Formatted
  | 0, _, args => { args, ended := true }
  | fuel + 1, cs, args =>
    match cs with
    | [] => { args }
    | '%' :: '%' :: rest => (formatOnce fuel rest args).after ['%']
    | '%' :: rest =>
      match conversion? rest with
      | none => { args, ended := true, invalid := some "%" }
      | some (k, after) =>
        if !conversionLetters.contains k.letter then
          let written := rest.take (rest.length - after.length)
          { args, ended := true, invalid := some (String.ofList ('%' :: written)) }
        else
          let arg := args.headD []
          let (here, stop) := convert k arg
          let isNumber := !(['b', 's', 'c'].contains k.letter)
          let fault := if isNumber then numberFault? (Bytes.letters arg) else none
          let faults := (fault.map fun f ↦ Bytes.display arg ++ ": " ++ f).toList
          if stop then { text := here, args := args.tail, used := true, ended := true }
          else
            let f := (formatOnce fuel after args.tail).after here
            { f with used := true, faults := faults ++ f.faults }
    | '\\' :: rest =>
      match escape .format rest with
      | (none, _) => { args, ended := true }
      | (some here, rest) => (formatOnce fuel rest args).after here
    | c :: rest => (formatOnce fuel rest args).after [c]

/-- The output of a format, used again as long as arguments are left and it uses them. -/
def formatAll (format : List Char) : Nat → List Bytes → Formatted
  | 0, args => { args }
  | fuel + 1, args =>
    let f := formatOnce (format.length + 1) format args
    if f.ended || f.args.isEmpty || !f.used then f
    else
      let more := (formatAll format fuel f.args).after f.text
      { more with faults := f.faults ++ more.faults }

def printf (c : Call) : Work Nat := do
  match c.args with
  | [] =>
    Work.complain (Bytes.ofString "printf: usage: printf format [arg ...]")
    return 2
  | format :: args =>
    let f := formatAll (Bytes.letters format) (args.length + 1) args
    for fault in f.faults do
      Work.complain (Bytes.ofString ("printf: " ++ fault))
    Work.say (Bytes.ofLetters f.text)
    match f.invalid with
    | some k =>
      Work.complain (Bytes.ofString ("printf: " ++ k ++ ": invalid directive"))
      return 2
    | none => return if f.faults.isEmpty then 0 else 1

end MountSweep.Rehearsal
