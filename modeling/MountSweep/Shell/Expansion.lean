import MountSweep.Posix.FileSystem.Calls
import MountSweep.Shell.Arithmetic
import MountSweep.Shell.Pattern
import MountSweep.Shell.Syntax

namespace MountSweep.Shell

open Posix

inductive Item
  | glyph (g : Glyph)
  | hold
  | split
  deriving DecidableEq, Repr

abbrev Expand := StateT Parameters (Except String)

def glyphs (o : Origin) (bs : Bytes) : List Item :=
  bs.map fun b ↦ .glyph ⟨b, o⟩

def valueItems (quoted : Bool) (bs : Bytes) : List Item :=
  if quoted then .hold :: glyphs .quoted bs else glyphs .inserted bs

def argumentItems (quoted : Bool) : List Bytes → List Item
  | [] => []
  | [a] => valueItems quoted a
  | a :: rest => valueItems quoted a ++ .split :: argumentItems quoted rest

def nested (quoted : Bool) (items : List Item) : List Item :=
  if quoted then
    .hold :: items.map fun
      | .glyph g => .glyph { g with origin := .quoted }
      | i => i
  else
    items.map fun
      | .glyph ⟨b, .written⟩ => .glyph ⟨b, .inserted⟩
      | i => i

def flat (items : List Item) : List Glyph :=
  items.filterMap fun
    | .glyph g => some g
    | .hold => none
    | .split => some ⟨32, .quoted⟩

def flatBytes (items : List Item) : Bytes :=
  (flat items).map Glyph.byte

/-- The value of a parameter, unless it is missing or empty where that counts as missing. -/
def present? (orEmpty : Bool) (name : Bytes) : Expand (Option Bytes) := do
  match (← get).get? name with
  | some v => return if orEmpty && v.isEmpty then none else some v
  | none => return none

mutual

def Piece.expand : Piece → Expand (List Item)
  | .text quoted bs => return if quoted then .hold :: glyphs .quoted bs else glyphs .written bs
  | .parameter quoted name use => use.expand quoted name
  | .output quoted bs => return valueItems quoted bs
  | .script .. => return []
  | .arithmetic quoted word => do
    let text := flatBytes (← expandAll word)
    let (n, ps) ← Arithmetic.value text (← get)
    set ps
    return valueItems quoted (Bytes.ofString (toString n))

def Use.expand (quoted : Bool) (name : Bytes) : Use → Expand (List Item)
  | .plain => do
    let p ← get
    if name = [64] || (name = [42] && !quoted) then return argumentItems quoted p.args
    else
      match p.get? name with
      | some bs => return valueItems quoted bs
      | none =>
        if p.options.contains 'u' && name ≠ [42] then
          throw (Bytes.display name ++ ": parameter not set")
        else return valueItems quoted []
  | .wrong => throw "Bad substitution"
  | .length => do
    return valueItems quoted (Bytes.ofNat (((← get).get? name).getD []).length)
  | .orWord orEmpty word => do
    match ← present? orEmpty name with
    | some v => return valueItems quoted v
    | none => return nested quoted (← expandAll word)
  | .assign orEmpty word => do
    match ← present? orEmpty name with
    | some v => return valueItems quoted v
    | none =>
      let v := flatBytes (← expandAll word)
      modify (·.set name v)
      return valueItems quoted v
  | .ifSet orEmpty word => do
    match ← present? orEmpty name with
    | some _ => return nested quoted (← expandAll word)
    | none => return valueItems quoted []
  | .require orEmpty word => do
    match ← present? orEmpty name with
    | some v => return valueItems quoted v
    | none =>
      let reason := flatBytes (← expandAll word)
      let usual := "parameter not set" ++ if orEmpty then " or null" else ""
      throw (Bytes.display name ++ ": " ++
        if reason.isEmpty then usual else Bytes.display reason)
  | .cut front longest pattern => do
    let p := Pattern.ofGlyphs (flat (← expandAll pattern))
    return valueItems quoted (Pattern.cut front longest p (((← get).get? name).getD []))

def expandAll : List Piece → Expand (List Item)
  | [] => return []
  | p :: rest => return (← p.expand) ++ (← expandAll rest)

end

def isFieldBlank (b : UInt8) : Bool := b = 32 || b = 9 || b = 10

/-- The fields of items; `current` is the field that was begun, and `passed` says that white space
has just ended one. A separator that is no white space ends a field even if it is empty. -/
def fieldsFrom (separators : Bytes) (current : Option (List Glyph)) (passed : Bool) :
    List Item → List (List Glyph)
  | [] => current.toList
  | .hold :: rest => fieldsFrom separators (some (current.getD [])) false rest
  | .split :: rest => current.toList ++ fieldsFrom separators none false rest
  | .glyph g :: rest =>
    if g.origin = .inserted && separators.contains g.byte then
      if isFieldBlank g.byte then
        current.toList ++ fieldsFrom separators none (passed || current.isSome) rest
      else
        match current, passed with
        | none, true => fieldsFrom separators none false rest
        | c, _ => c.getD [] :: fieldsFrom separators none false rest
    else fieldsFrom separators (some (current.getD [] ++ [g])) false rest

def isPattern (field : List Glyph) : Bool :=
  field.any fun g ↦ g.isActive '*' || g.isActive '?' || g.isActive '['

def components (field : List Glyph) : List (List Glyph) :=
  field.foldr (fun g parts ↦
    if g.byte = Path.slash then [] :: parts
    else
      match parts with
      | [] => [[g]]
      | p :: rest => (g :: p) :: rest) [[]]

def matchingNames (fs : FileSystem) (dir : Path) (component : List Glyph) : List Bytes :=
  let names := (fs.readdir (if dir.isEmpty then Bytes.ofString "." else dir)).toOption.getD []
  let hidden := component.head?.any (·.byte = 46)
  (names.filter fun n ↦
    (hidden || n.head? ≠ some 46) && Pattern.isMatch (Pattern.ofGlyphs component) n).mergeSort
      Bytes.isLe

def pathsFrom (fs : FileSystem) (base : Path) : List (List Glyph) → List Path
  | [] => []
  | [last] =>
    if isPattern last then (matchingNames fs base last).map (base ++ ·)
    else
      let p := base ++ last.map Glyph.byte
      if (fs.stat false p).toOption.isSome then [p] else []
  | c :: rest =>
    let here := if isPattern c then matchingNames fs base c else [c.map Glyph.byte]
    here.flatMap fun n ↦ pathsFrom fs (base ++ n ++ [Path.slash]) rest

/-- The paths that a field matches, or its bytes if it is no pattern or matches nothing. -/
def paths (fs : FileSystem) (field : List Glyph) : List Bytes :=
  if isPattern field then
    match pathsFrom fs [] (components field) with
    | [] => [field.map Glyph.byte]
    | ps => ps
  else [field.map Glyph.byte]

def Word.fields (fs : FileSystem) (w : Word) : Expand (List Bytes) := do
  let items ← expandAll w
  let p ← get
  let fields := fieldsFrom p.separators none false items
  return fields.flatMap fun field ↦
    if p.options.contains 'f' then [field.map Glyph.byte] else paths fs field

def Word.allFields (fs : FileSystem) : List Word → Expand (List Bytes)
  | [] => return []
  | w :: rest => return (← Word.fields fs w) ++ (← allFields fs rest)

def Word.text (w : Word) : Expand Bytes := return flatBytes (← expandAll w)

def Word.pattern (w : Word) : Expand (List PatternPart) :=
  return Pattern.ofGlyphs (flat (← expandAll w))

end MountSweep.Shell
