import MountSweep.Yaml.Lexer
import MountSweep.Yaml.Node

namespace MountSweep.Yaml

namespace Composer

/-- Where reading stands: the tokens left, the numbers of the names of anchors, the anchored nodes
so far, and the tag handles declared. -/
structure State where
  rest : List Token
  numbers : List (List Char × Nat) := []
  anchored : List (Nat × Node) := []
  handles : List (List Char × Bytes) := []

abbrev Compose := StateT State (Except Fault)

def fail {α : Type} (f : Fault) : Compose α := throw f

def peek : Compose (Option Token) := return (← get).rest.head?

def skip : Compose Unit := modify fun s ↦ { s with rest := s.rest.drop 1 }

def nextIn (ts : List Token) : Compose Bool := return (← peek).any ts.contains

def standardHandles : List (List Char × Bytes) :=
  [("!".toList, Bytes.ofString "!"), ("!!".toList, Bytes.ofString "tag:yaml.org,2002:")]

def resolveTag (handle : List Char) (suffix : Bytes) : Compose Bytes := do
  if handle = [] then return suffix
  else
    match ((← get).handles ++ standardHandles).lookup handle with
    | some start => return start ++ suffix
    | none => fail .undefinedHandle

def properties : Compose (Option (List Char) × Option Bytes) := do
  match ← peek with
  | some (.anchor name) =>
    skip
    match ← peek with
    | some (.tag handle suffix) =>
      skip
      return (some name, some (← resolveTag handle suffix))
    | _ => return (some name, none)
  | some (.tag handle suffix) =>
    skip
    let tag ← resolveTag handle suffix
    match ← peek with
    | some (.anchor name) =>
      skip
      return (some name, some tag)
    | _ => return (none, some tag)
  | _ => return (none, none)

/-- A node under an anchor, if it has one. The anchor's number is that of the names so far, and a
name has only its latest number; so two names may come to share one. The nodes inside begin later
than the node itself. -/
def underAnchor (anchor : Option (List Char)) (read : Compose Node) : Compose Node := do
  match anchor with
  | none => read
  | some name =>
    let s ← get
    let number := s.numbers.length
    let others := s.numbers.filter (·.1 ≠ name)
    set { s with numbers := (name, number) :: others, anchored := [] }
    let n ← read
    modify fun t ↦ { t with anchored := t.anchored ++ (number, n) :: s.anchored }
    return n

/-- What a node may be: anything, anything that fits into a flow collection, or also a sequence
without indentation. -/
inductive Place
  | block | flow | blockValue
  deriving DecidableEq

mutual

def node (fuel : Nat) (place : Place) : Compose Node :=
  match fuel with
  | 0 => fail .unfinished
  | fuel + 1 => do
    match ← peek with
    | some (.alias name) =>
      skip
      match (← get).numbers.lookup name with
      | some number => return .alias number
      | none => fail .unknownAnchor
    | _ =>
      let (anchor, tag) ← properties
      match ← peek with
      | some (.scalar value style) =>
        skip
        underAnchor anchor do return .scalar tag value style
      | some .flowSequenceStart =>
        skip
        underAnchor anchor do return .sequence tag (← flowItems fuel true)
      | some .flowMappingStart =>
        skip
        underAnchor anchor do return .mapping tag (← flowEntries fuel true)
      | t =>
        if place = .blockValue ∧ t = some .blockEntry then
          underAnchor anchor do return .sequence tag (← indentlessItems fuel)
        else if place ≠ .flow ∧ t = some .blockSequenceStart then
          skip
          underAnchor anchor do return .sequence tag (← blockItems fuel)
        else if place ≠ .flow ∧ t = some .blockMappingStart then
          skip
          underAnchor anchor do return .mapping tag (← blockEntries fuel)
        else if anchor.isSome ∨ tag.isSome then
          underAnchor anchor do return .scalar tag [] .plain
        else fail .expectedNode

def blockItems (fuel : Nat) : Compose (List Node) :=
  match fuel with
  | 0 => fail .unfinished
  | fuel + 1 => do
    match ← peek with
    | some .blockEntry =>
      skip
      let item ←
        if ← nextIn [.blockEntry, .blockEnd] then pure Node.absent else node fuel .block
      return item :: (← blockItems fuel)
    | some .blockEnd =>
      skip
      return []
    | _ => fail .expectedDash

def indentlessItems (fuel : Nat) : Compose (List Node) :=
  match fuel with
  | 0 => fail .unfinished
  | fuel + 1 => do
    match ← peek with
    | some .blockEntry =>
      skip
      let item ←
        if ← nextIn [.blockEntry, .key, .value, .blockEnd] then pure Node.absent
        else node fuel .block
      return item :: (← indentlessItems fuel)
    | _ => return []

def blockEntries (fuel : Nat) : Compose (List (Node × Node)) :=
  match fuel with
  | 0 => fail .unfinished
  | fuel + 1 => do
    match ← peek with
    | some .key =>
      skip
      let key ←
        if ← nextIn [.key, .value, .blockEnd] then pure Node.absent else node fuel .blockValue
      let value ← blockValue fuel
      return (key, value) :: (← blockEntries fuel)
    | some .blockEnd =>
      skip
      return []
    | some .value => fail .expectedKey
    | _ => fail .expectedKey

def blockValue (fuel : Nat) : Compose Node :=
  match fuel with
  | 0 => fail .unfinished
  | fuel + 1 => do
    if ← nextIn [.value] then
      skip
      if ← nextIn [.key, .value, .blockEnd] then return .absent else node fuel .blockValue
    else return .absent

/-- The items of a flow sequence; an item with a key is a mapping of one entry. -/
def flowItems (fuel : Nat) (isFirst : Bool) : Compose (List Node) :=
  match fuel with
  | 0 => fail .unfinished
  | fuel + 1 => do
    if !(← nextIn [.flowSequenceEnd]) && !isFirst then
      if ← nextIn [.flowEntry] then skip else fail .expectedCommaOrBracket
    match ← peek with
    | some .flowSequenceEnd =>
      skip
      return []
    | some .key =>
      skip
      let key ←
        if ← nextIn [.value, .flowEntry, .flowSequenceEnd] then
          skip
          pure Node.absent
        else node fuel .flow
      let value ←
        if ← nextIn [.value] then
          skip
          if ← nextIn [.flowEntry, .flowSequenceEnd] then pure Node.absent else node fuel .flow
        else pure Node.absent
      return .mapping none [(key, value)] :: (← flowItems fuel false)
    | _ =>
      let item ← node fuel .flow
      return item :: (← flowItems fuel false)

def flowEntries (fuel : Nat) (isFirst : Bool) : Compose (List (Node × Node)) :=
  match fuel with
  | 0 => fail .unfinished
  | fuel + 1 => do
    if !(← nextIn [.flowMappingEnd]) && !isFirst then
      if ← nextIn [.flowEntry] then skip else fail .expectedCommaOrBrace
    match ← peek with
    | some .flowMappingEnd =>
      skip
      return []
    | some .key =>
      skip
      let key ←
        if ← nextIn [.value, .flowEntry, .flowMappingEnd] then pure Node.absent
        else node fuel .flow
      let value ←
        if ← nextIn [.value] then
          skip
          if ← nextIn [.flowEntry, .flowMappingEnd] then pure Node.absent else node fuel .flow
        else pure Node.absent
      return (key, value) :: (← flowEntries fuel false)
    | _ =>
      let key ← node fuel .flow
      return (key, .absent) :: (← flowEntries fuel false)

end

def directives (versioned : Bool) : Nat → Compose Unit
  | 0 => fail .unfinished
  | fuel + 1 => do
    match ← peek with
    | some (.versionDirective major minor) =>
      if versioned then fail .repeatedDirective
      else if major ≠ 1 ∨ (minor ≠ 1 ∧ minor ≠ 2) then fail .incompatibleVersion
      else
        skip
        directives true fuel
    | some (.tagDirective handle start) =>
      if ((← get).handles.lookup handle).isSome then fail .repeatedDirective
      else
        skip
        modify fun s ↦ { s with handles := (handle, start) :: s.handles }
        directives versioned fuel
    | _ => return ()

def atDocumentEdge : Compose Bool := do
  match ← peek with
  | none | some .documentStart | some .documentEnd | some (.versionDirective ..)
  | some (.tagDirective ..) => return true
  | _ => return false

def documentEnds : Nat → Compose Unit
  | 0 => return ()
  | fuel + 1 => do
    if ← nextIn [.documentEnd] then
      skip
      documentEnds fuel

def document (fuel : Nat) : Compose (Option Node) := do
  match ← peek with
  | none => return none
  | some .documentEnd => fail .expectedDocumentStart
  | _ =>
    if ← atDocumentEdge then
      directives false fuel
      if ← nextIn [.documentStart] then
        skip
        if ← atDocumentEdge then return some .absent else return some (← node fuel .block)
      else fail .expectedDocumentStart
    else return some (← node fuel .block)

def stream (fuel : Nat) : Compose (Option Node) := do
  let first ← document fuel
  documentEnds fuel
  if (← get).rest = [] then return first else fail .unfinished

end Composer

def Document.ofTokens? (tokens : List Token) : Except Fault (Option Document) :=
  ((Composer.stream (2 * tokens.length + 3)).run { rest := tokens }).map fun (root?, s) ↦
    root?.map (⟨·, s.anchored⟩)

/-- The document that a text holds; `none` if it holds none. A text with a second document is
refused. -/
def Document.ofText? (text : List Char) : Except Fault (Option Document) := do
  Document.ofTokens? (← Token.ofText? text)

end MountSweep.Yaml
