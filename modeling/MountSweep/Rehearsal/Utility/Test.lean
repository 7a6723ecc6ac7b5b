import MountSweep.Rehearsal.Utility.Basic

namespace MountSweep.Rehearsal

open Posix Output

abbrev Condition := Except String Bool

inductive Sign
  | unary (op : String)
  | binary (op : String)
  | not | and | or
  | opening | closing
  | operand
  | finish
  deriving DecidableEq, Repr

def unaryOperators : List String := [
  "-r", "-w", "-x", "-e", "-f", "-d", "-c", "-b", "-p", "-u", "-g", "-k", "-s", "-t", "-z", "-n",
  "-h", "-O", "-G", "-L", "-S"]

def binaryOperators : List String :=
  ["=", "!=", "<", ">", "-eq", "-ne", "-ge", "-gt", "-le", "-lt", "-nt", "-ot", "-ef"]

def operator? (word : Bytes) : Option Sign :=
  let isWord (op : String) : Bool := Bytes.ofString op = word
  if isWord "!" then some .not
  else if isWord "-a" then some .and
  else if isWord "-o" then some .or
  else if isWord "(" then some .opening
  else if isWord ")" then some .closing
  else
    ((unaryOperators.find? isWord).map .unary).orElse fun _ ↦
      (binaryOperators.find? isWord).map .binary

/-- Whether an operator on one operand stands for itself, as the words after it show. -/
def standsForItself : List Bytes → Bool
  | [] => true
  | [_] => false
  | next :: _ =>
    match operator? next with
    | some (.binary _) => true
    | _ => false

def signOf : List Bytes → Sign
  | [] => .finish
  | word :: rest =>
    match operator? word with
    | some (.unary op) => if standsForItself rest then .operand else .unary op
    | some .opening => if rest.isEmpty then .operand else .opening
    | some sign => sign
    | none => .operand

def integer (operand : Bytes) : Except String Int :=
  match Bytes.toInt? operand with
  | some n => .ok n
  | none => .error ("Illegal number: " ++ Bytes.display operand)

def unaryValue (fs : FileSystem) (op : String) (operand : Bytes) : Bool :=
  let stat (follow : Bool) := (fs.stat follow operand).toOption
  let kind (k : FileKind) := (stat true).any (·.kind = k)
  let mode (bit : Nat) := (stat true).any fun s ↦ s.mode &&& bit ≠ 0
  match op with
  | "-e" | "-r" | "-w" | "-O" | "-G" => (stat true).isSome
  | "-x" => (stat true).any fun s ↦ s.kind = .dir || s.mode &&& 0o111 ≠ 0
  | "-f" => kind .file
  | "-d" => kind .dir
  | "-c" => kind .other
  | "-u" => mode 0o4000
  | "-g" => mode 0o2000
  | "-k" => mode 0o1000
  | "-s" => (stat true).any (0 < ·.size)
  | "-z" => operand.isEmpty
  | "-n" => !operand.isEmpty
  | "-h" | "-L" => (stat false).any (·.kind = .link)
  | _ => false

def binaryValue (fs : FileSystem) (op : String) (a b : Bytes) : Condition :=
  let compare (f : Int → Int → Bool) : Condition := do return f (← integer a) (← integer b)
  let newer (a b : Bytes) : Bool :=
    match fs.stat true a, fs.stat true b with
    | .ok s, .ok t => t.mtime < s.mtime
    | .ok _, .error _ => true
    | _, _ => false
  match op with
  | "=" => .ok (a = b)
  | "!=" => .ok (a ≠ b)
  | "<" => .ok (!Bytes.isLe b a)
  | ">" => .ok (!Bytes.isLe a b)
  | "-eq" => compare (· == ·)
  | "-ne" => compare (· != ·)
  | "-ge" => compare (· ≥ ·)
  | "-gt" => compare (· > ·)
  | "-le" => compare (· ≤ ·)
  | "-lt" => compare (· < ·)
  | "-nt" => .ok (newer a b)
  | "-ot" => .ok (newer b a)
  | _ =>
    match fs.stat true a, fs.stat true b with
    | .ok s, .ok t => .ok (s.dev = t.dev && s.ino = t.ino)
    | _, _ => .ok false

mutual

/-- The value of conditions one of which has to hold. Each of these functions also gives the words
from the last one it has used. -/
def anyOf (fs : FileSystem) : Nat → List Bytes → Except String (Bool × List Bytes)
  | 0, words => .ok (false, words)
  | fuel + 1, words => do
    let (a, words) ← allOf fs fuel words
    if signOf words.tail = .or then
      let (b, words) ← anyOf fs fuel (words.drop 2)
      return (a || b, words)
    else return (a, words)

def allOf (fs : FileSystem) : Nat → List Bytes → Except String (Bool × List Bytes)
  | 0, words => .ok (false, words)
  | fuel + 1, words => do
    let (a, words) ← single fs fuel words
    if signOf words.tail = .and then
      let (b, words) ← allOf fs fuel (words.drop 2)
      return (a && b, words)
    else return (a, words)

def single (fs : FileSystem) : Nat → List Bytes → Except String (Bool × List Bytes)
  | 0, words => .ok (false, words)
  | fuel + 1, words =>
    match signOf words with
    | .finish => .ok (false, words)
    | .not => do
      if signOf words.tail = .finish then return (true, words)
      let (a, words) ← single fs fuel words.tail
      return (!a, words)
    | .opening => do
      if signOf words.tail = .closing then return (false, words.tail)
      let (a, words) ← anyOf fs fuel words.tail
      if signOf words.tail = .closing then return (a, words.tail)
      else throw "closing paren expected"
    | .unary op =>
      match words.tail with
      | [] => .error (op ++ ": argument expected")
      | operand :: _ => .ok (unaryValue fs op operand, words.tail)
    | _ =>
      match signOf words.tail, words with
      | .binary op, a :: _ :: b :: rest => do return (← binaryValue fs op a b, b :: rest)
      | .binary op, _ => .error (op ++ ": argument expected")
      | _, word :: _ => .ok (!word.isEmpty, words)
      | _, [] => .ok (false, words)

end

def negation : Bytes := [33]

def wholeCondition (fs : FileSystem) (words : List Bytes) : Condition := do
  match ← anyOf fs (4 * words.length + 4) words with
  | (_, word :: _ :: _) =>
    throw (if word.isEmpty then "unexpected operator"
      else Bytes.display word ++ ": unexpected operator")
  | (a, _) => return a

def condition (fs : FileSystem) : List Bytes → Condition
  | [] => .ok false
  | [a, op, b] =>
    match operator? op with
    | some (.binary op) => binaryValue fs op a b
    | _ =>
      if a = [40] && b = [41] then wholeCondition fs [op]
      else if a = negation then not <$> wholeCondition fs [op, b]
      else wholeCondition fs [a, op, b]
  | [a, b, c, d] =>
    if a = [40] && d = [41] then wholeCondition fs [b, c]
    else if a = negation then not <$> condition fs [b, c, d]
    else wholeCondition fs [a, b, c, d]
  | words => wholeCondition fs words

def testWith (complaint : String → Work Unit) (args : List Bytes) : Work Nat := do
  match condition (← Work.look id) args with
  | .ok true => return 0
  | .ok false => return 1
  | .error text =>
    complaint text
    return 2

def test (c : Call) : Work Nat :=
  testWith (fun text ↦ Work.complain (Bytes.ofString ("test: " ++ text))) c.args

def bracket (c : Call) : Work Nat := do
  if c.args.getLast? = some [93] then
    testWith (fun text ↦ Work.complain (Bytes.ofString ("[: " ++ text))) c.args.dropLast
  else
    Work.complain (Bytes.ofString "[: missing ]")
    return 2

end MountSweep.Rehearsal
