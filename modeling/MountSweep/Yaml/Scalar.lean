import MountSweep.Text.Utf8
import MountSweep.Yaml.Lexer

namespace MountSweep.Yaml

def digitsValue? (base : Nat) : List Char → Option Nat
  | [] => none
  | cs =>
    cs.foldlM (fun n c ↦
      match Lexer.hexDigit? c with
      | some d => if d < base then some (n * base + d) else none
      | none => none) 0

/-- Whether a text is a number with needless zeros in front, which counts as text. -/
def hasLeadingZero (cs : List Char) : Bool :=
  let unsigned :=
    match cs with
    | c :: rest => if c = '-' ∨ c = '+' then rest else cs
    | [] => []
  match unsigned with
  | '0' :: rest => rest ≠ [] && rest.all Char.isDigit
  | _ => false

def unsignedDigits? (cs : List Char) : Option Nat :=
  match cs with
  | '0' :: 'x' :: rest => digitsValue? 16 rest
  | '0' :: 'o' :: rest => digitsValue? 8 rest
  | '0' :: 'b' :: rest => digitsValue? 2 rest
  | cs => if hasLeadingZero cs then none else digitsValue? 10 cs

def intValue? : List Char → Option Int
  | '+' :: rest => (unsignedDigits? rest).map Int.ofNat
  | '-' :: rest => (unsignedDigits? rest).map fun n ↦ -Int.ofNat n
  | cs => (unsignedDigits? cs).map Int.ofNat

def natValue? : List Char → Option Nat
  | '+' :: rest => unsignedDigits? rest
  | cs => unsignedDigits? cs

/-- Whether `digits` times ten to the power `exponent` is below the range of double precision. -/
def isFiniteDecimal (digits : Nat) (exponent : Int) : Bool :=
  let bound := Nat.pow 2 1024 - Nat.pow 2 970
  if digits = 0 then true
  else if exponent < 0 then
    -- a number of so many digits is below the bound however it is scaled
    digits < bound * Nat.pow 10 (min exponent.natAbs (Nat.log2 digits + 1))
  else if 400 < exponent then false
  else digits * Nat.pow 10 exponent.toNat < bound

def isFloat (cs : List Char) : Bool :=
  let unpositive := if cs.head? = some '+' then cs.drop 1 else cs
  if cs.head? = some '+' && unpositive.head?.any fun c ↦ c = '+' || c = '-' then false
  else if [".inf", ".Inf", ".INF"].any (·.toList = unpositive) then true
  else if ["-.inf", "-.Inf", "-.INF", ".nan", ".NaN", ".NAN"].any (·.toList = cs) then true
  else
    let unsigned := if unpositive.head? = some '-' then unpositive.drop 1 else unpositive
    let whole := unsigned.takeWhile Char.isDigit
    let rest := unsigned.dropWhile Char.isDigit
    let (fraction, rest) :=
      match rest with
      | '.' :: rest => (rest.takeWhile Char.isDigit, rest.dropWhile Char.isDigit)
      | rest => ([], rest)
    let digits := whole ++ fraction
    let value := digits.foldl (fun n c ↦ n * 10 + (c.toNat - 48)) 0
    let exponent? : Option Int :=
      match rest with
      | [] => some 0
      | e :: rest =>
        if e = 'e' ∨ e = 'E' then
          match rest with
          | '-' :: rest => (digitsValue? 10 rest).map fun n ↦ -Int.ofNat n
          | '+' :: rest => (digitsValue? 10 rest).map Int.ofNat
          | rest => (digitsValue? 10 rest).map Int.ofNat
        else none
    match exponent? with
    | some e => digits ≠ [] && isFiniteDecimal value (e - fraction.length)
    | none => false

def boolValue? (cs : List Char) : Option Bool :=
  if ["true", "True", "TRUE"].any (·.toList = cs) then some true
  else if ["false", "False", "FALSE"].any (·.toList = cs) then some false
  else none

def isNull (cs : List Char) : Bool :=
  ["null", "Null", "NULL", "~"].any (·.toList = cs)

inductive Scalar
  | null
  | bool (b : Bool)
  | int (n : Int)
  | float
  | text (cs : List Char)
  deriving DecidableEq, Repr

/-- Whether a whole number fits into 128 bits; a longer one counts as a fraction. -/
def fits128 (n : Int) : Bool :=
  -0x80000000000000000000000000000000 ≤ n && n < 0x100000000000000000000000000000000

def Scalar.ofPlain (cs : List Char) : Scalar :=
  if cs = [] ∨ isNull cs then .null
  else
    match boolValue? cs with
    | some b => .bool b
    | none =>
      match (intValue? cs).filter fits128 with
      | some n => .int n
      | none => if !hasLeadingZero cs && isFloat cs then .float else .text cs

def coreTag (name : String) : Bytes := Bytes.ofString ("tag:yaml.org,2002:" ++ name)

def isLocalTag : Bytes → Bool
  | b :: rest => b = 0x21 && (Text.Utf8.decode? rest).isSome
  | [] => false

def Scalar.ofUntagged (value : List Char) (style : ScalarStyle) : Scalar :=
  if style = .plain then .ofPlain value else .text value

/-- What a scalar with a tag stands for; `none` if the two contradict each other or the tag is a
local one. -/
def Scalar.ofTagged? (tag : Option Bytes) (value : List Char) (style : ScalarStyle) :
    Option Scalar :=
  match tag with
  | none => some (.ofUntagged value style)
  | some tag =>
    if isLocalTag tag then none
    else if tag.head? = some 0x21 then some (.ofUntagged value style)
    else if tag = coreTag "bool" then (boolValue? value).map .bool
    else if tag = coreTag "int" then ((intValue? value).filter fits128).map .int
    else if tag = coreTag "float" then if isFloat value then some .float else none
    else if tag = coreTag "null" then if isNull value then some .null else none
    else some (.text value)

end MountSweep.Yaml
