import MountSweep.Yaml.Node
import MountSweep.Yaml.Scalar

namespace MountSweep.Yaml

inductive Mismatch
  | expected (what : String)
  | repeatedField (name : String)
  | missingField (name : String)
  | tooManyAliases
  deriving DecidableEq, Repr

def Mismatch.message : Mismatch → String
  | expected what => "invalid value: expected " ++ what
  | repeatedField name => "duplicate field " ++ name
  | missingField name => "missing field " ++ name
  | tooManyAliases => "repetition limit exceeded"

/-- A reader of a value from a document; its state is the number of aliases that it may still
follow. -/
abbrev Decode := ReaderT Document (StateT Nat (Except Mismatch))

def mismatch {α : Type} (m : Mismatch) : Decode α := throw m

def Document.decode {α : Type} (d : Document) (value : Node → Decode α) : Except Mismatch α :=
  (((value d.root).run d).run d.aliasLimit).map (·.1)

namespace Node

def target : Node → Decode Node
  | .alias number => do
    match ← get with
    | 0 => mismatch .tooManyAliases
    | left + 1 =>
      set left
      match (← read).anchor? number with
      | some n => return n
      | none => mismatch (.expected "an anchored node")
  | n => return n

def text (n : Node) : Decode String := do
  match ← n.target with
  | scalar _ value _ => return String.ofList value
  | _ => mismatch (.expected "a string")

/-- Whether a scalar may be read by its spelling: a plain one, or a literal one with the tag of
the kind that is expected. -/
def isSpelled (kind : String) (tag : Option Bytes) (style : ScalarStyle) : Bool :=
  style = .plain || (style = .literal && tag = some (coreTag kind))

def bool (n : Node) : Decode Bool := do
  match ← n.target with
  | scalar tag value style =>
    match if isSpelled "bool" tag style then boolValue? value else none with
    | some b => return b
    | none => mismatch (.expected "a boolean")
  | _ => mismatch (.expected "a boolean")

def nat64 (n : Node) : Decode Nat := do
  match ← n.target with
  | scalar tag value style =>
    match if isSpelled "int" tag style then natValue? value else none with
    | some k =>
      if k < 0x10000000000000000 then return k else mismatch (.expected "a 64-bit number")
    | none => mismatch (.expected "a number")
  | _ => mismatch (.expected "a number")

def items (n : Node) : Decode (List Node) := do
  match ← n.target with
  | sequence _ items => return items
  | scalar _ [] .plain => return []
  | _ => mismatch (.expected "a sequence")

def list {α : Type} (item : Node → Decode α) (n : Node) : Decode (List α) := do
  (← n.items).mapM item

def fields (n : Node) : Decode (List (String × Node)) := do
  match ← n.target with
  | mapping _ entries => entries.mapM fun (key, value) ↦ do return (← key.text, value)
  | scalar _ [] .plain => return []
  | _ => mismatch (.expected "a mapping")

end Node

def field? (fields : List (String × Node)) (name : String) : Decode (Option Node) :=
  match fields.filter (·.1 = name) with
  | [] => return none
  | [(_, value)] => return some value
  | _ => mismatch (.repeatedField name)

def fieldOr {α : Type} (fields : List (String × Node)) (name : String)
    (value : Node → Decode α) (default : α) : Decode α := do
  match ← field? fields name with
  | some n => value n
  | none => return default

def required {α : Type} (fields : List (String × Node)) (name : String)
    (value : Node → Decode α) : Decode α := do
  match ← field? fields name with
  | some n => value n
  | none => mismatch (.missingField name)

end MountSweep.Yaml
