import MountSweep.Shell.Parameters

namespace MountSweep.Shell.Arithmetic

inductive Token
  | number (n : Int)
  | name (bs : Bytes)
  | operator (text : String)
  deriving DecidableEq, Repr

def operators : List String :=
  ["<<=", ">>=", "||", "&&", "==", "!=", "<=", ">=", "<<", ">>", "+=", "-=", "*=", "/=", "%=", "&=",
    "|=", "^=", "+", "-", "*", "/", "%", "<", ">", "=", "!", "~", "&", "|", "^", "(", ")", "?", ":",
    ","]

def digit? (c : Char) : Option Nat :=
  if c.isDigit then some (c.toNat - 48)
  else if 'a' ≤ c ∧ c ≤ 'f' then some (c.toNat - 87)
  else if 'A' ≤ c ∧ c ≤ 'F' then some (c.toNat - 55)
  else none

def inBase? (base : Nat) (ds : List Char) : Option Nat :=
  ds.foldl (fun n c ↦ do
    let n ← n
    let d ← digit? c
    if d < base then some (n * base + d) else none) (some 0)

/-- The number that a text writes: in base sixteen after `0x`, and in base eight after a zero. -/
def number? (ds : List Char) : Option Int :=
  match ds with
  | '0' :: 'x' :: rest | '0' :: 'X' :: rest =>
    if rest.isEmpty then none else (inBase? 16 rest).map Int.ofNat
  | '0' :: rest => (inBase? 8 rest).map Int.ofNat
  | [] => none
  | ds => (inBase? 10 ds).map Int.ofNat

def tokens? : Nat → List Char → Option (List Token)
  | 0, _ => none
  | fuel + 1, cs =>
    match cs with
    | [] => some []
    | c :: rest =>
      if c = ' ' || c = '\t' || c = '\n' then tokens? fuel rest
      else if c.isDigit then do
        let ds := cs.takeWhile Char.isAlphanum
        let n ← number? ds
        return .number n :: (← tokens? fuel (cs.drop ds.length))
      else if c.isAlpha || c = '_' then do
        let name := cs.takeWhile fun c ↦ c.isAlphanum || c = '_'
        return .name (Bytes.ofLetters name) :: (← tokens? fuel (cs.drop name.length))
      else do
        let op ← operators.find? fun op ↦ op.toList.isPrefixOf cs
        return .operator op :: (← tokens? fuel (cs.drop op.length))

abbrev Compute := StateT (List Token × Parameters) (Except String)

def wrap (n : Int) : Int := n.bmod 0x10000000000000000

def truth (b : Bool) : Int := if b then 1 else 0

def ranks : List (List String) := [
  ["||"], ["&&"], ["|"], ["^"], ["&"], ["==", "!="], ["<", "<=", ">", ">="], ["<<", ">>"],
  ["+", "-"], ["*", "/", "%"]]

def bits (n : Int) : Nat := (n % 0x10000000000000000).toNat

def apply (op : String) (a b : Int) : Except String Int :=
  match op with
  | "||" => .ok (truth (a ≠ 0 || b ≠ 0))
  | "&&" => .ok (truth (a ≠ 0 && b ≠ 0))
  | "|" => .ok (wrap (Int.ofNat (bits a ||| bits b)))
  | "^" => .ok (wrap (Int.ofNat (bits a ^^^ bits b)))
  | "&" => .ok (wrap (Int.ofNat (bits a &&& bits b)))
  | "==" => .ok (truth (a = b))
  | "!=" => .ok (truth (a ≠ b))
  | "<" => .ok (truth (a < b))
  | "<=" => .ok (truth (a ≤ b))
  | ">" => .ok (truth (b < a))
  | ">=" => .ok (truth (b ≤ a))
  | "<<" => .ok (wrap (a * Int.ofNat (1 <<< (bits b % 64))))
  | ">>" => .ok (a >>> (bits b % 64))
  | "+" => .ok (wrap (a + b))
  | "-" => .ok (wrap (a - b))
  | "*" => .ok (wrap (a * b))
  | "/" => if b = 0 then .error "division by zero" else .ok (wrap (Int.tdiv a b))
  | "%" => if b = 0 then .error "division by zero" else .ok (Int.tmod a b)
  | _ => .error "syntax error"

def peek : Compute (Option Token) := return (← get).1.head?

def advance : Compute Unit := modify fun (ts, ps) ↦ (ts.tail, ps)

def valueOf (name : Bytes) : Compute Int := do
  match (← get).2.get? name with
  | none | some [] => return 0
  | some bs =>
    match number? (Bytes.letters bs), Bytes.toInt? bs with
    | some n, _ => return n
    | none, some n => return n
    | none, none => throw ("Illegal number: " ++ Bytes.display bs)

/-- The operator that an assignment applies before it assigns; the empty text for a plain one. -/
def assignedBy (op : String) : Option String :=
  if op = "=" then some "" else
    match op.toList.reverse with
    | '=' :: rest =>
      let base := String.ofList rest.reverse
      if ["+", "-", "*", "/", "%", "&", "|", "^", "<<", ">>"].contains base then some base else none
    | _ => none

mutual

def expression : Nat → Compute Int
  | 0 => throw "expecting primary"
  | fuel + 1 => do
    let (ts, _) ← get
    match ts with
    | .name name :: .operator op :: _ =>
      match assignedBy op with
      | some base =>
        advance
        advance
        let right ← expression fuel
        let value ← if base = "" then pure right else apply base (← valueOf name) right
        modify fun (ts, ps) ↦ (ts, ps.set name (Bytes.ofString (toString value)))
        return value
      | none => choice fuel
    | _ => choice fuel

def choice : Nat → Compute Int
  | 0 => throw "expecting primary"
  | fuel + 1 => do
    let test ← ranked fuel ranks
    match ← peek with
    | some (.operator "?") =>
      advance
      let yes ← expression fuel
      match ← peek with
      | some (.operator ":") =>
        advance
        let no ← expression fuel
        return if test ≠ 0 then yes else no
      | _ => throw "expecting ':'"
    | _ => return test

def ranked : Nat → List (List String) → Compute Int
  | 0, _ => throw "expecting primary"
  | fuel + 1, ranks =>
    match ranks with
    | [] => operand fuel
    | rank :: tighter => do
      let first ← ranked fuel tighter
      rankedAfter fuel rank tighter first

def rankedAfter : Nat → List String → List (List String) → Int → Compute Int
  | 0, _, _, value => return value
  | fuel + 1, rank, tighter, value => do
    match ← peek with
    | some (.operator op) =>
      if rank.contains op then
        advance
        let right ← ranked fuel tighter
        rankedAfter fuel rank tighter (← apply op value right)
      else return value
    | _ => return value

/-- A number, a variable, or an expression in parentheses, perhaps after operators. -/
def operand : Nat → Compute Int
  | 0 => throw "expecting primary"
  | fuel + 1 => do
    match ← peek with
    | some (.number n) =>
      advance
      return wrap n
    | some (.name name) =>
      advance
      valueOf name
    | some (.operator "-") =>
      advance
      return wrap (-(← operand fuel))
    | some (.operator "+") =>
      advance
      operand fuel
    | some (.operator "!") =>
      advance
      return truth ((← operand fuel) = 0)
    | some (.operator "~") =>
      advance
      return wrap (-(← operand fuel) - 1)
    | some (.operator "(") =>
      advance
      let value ← expression fuel
      match ← peek with
      | some (.operator ")") =>
        advance
        return value
      | _ => throw "expecting ')'"
    | _ => throw "expecting primary"

end

def value (text : Bytes) (ps : Parameters) : Except String (Int × Parameters) :=
  let cs := Bytes.letters text
  let fail (reason : String) : Except String (Int × Parameters) :=
    .error ("arithmetic expression: " ++ reason ++ ": \"" ++ Bytes.display text ++ "\"")
  match tokens? (cs.length + 1) cs with
  | none => fail "expecting EOF"
  | some [] => .ok (0, ps)
  | some ts =>
    match (expression (16 * (ts.length + 2))).run (ts, ps) with
    | .error reason => fail reason
    | .ok (n, ([], ps)) => .ok (n, ps)
    | .ok (_, _) => fail "expecting EOF"

end MountSweep.Shell.Arithmetic
