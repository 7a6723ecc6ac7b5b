import MountSweep.Environment
import MountSweep.Error

namespace MountSweep.Environment

def isNameChar (c : Char) : Bool :=
  c.isAlphanum || c == '_'

def isName : List Char → Bool
  | [] => false
  | c :: rest => (c.isAlpha || c == '_') && rest.all isNameChar

def reference? : List Char → Option (List Char × List Char)
  | '$' :: '\x7b' :: rest =>
    match rest.dropWhile isNameChar with
    | '\x7d' :: tail =>
      if isName (rest.takeWhile isNameChar) then some (rest.takeWhile isNameChar, tail) else none
    | _ => none
  | _ => none

theorem length_lt_of_reference? {cs name tail : List Char}
    (h : reference? cs = some (name, tail)) : tail.length < cs.length := by
  unfold reference? at h
  split at h
  · rename_i rest
    split at h
    · rename_i tail' heq
      split at h
      · have hle := (List.dropWhile_suffix (p := isNameChar) (l := rest)).length_le
        rw [heq] at hle
        simp only [List.length_cons] at hle ⊢
        simp_all
        omega
      · simp at h
    · simp at h
  · simp at h

/-- A part of a text: a character or a reference. -/
inductive Segment
  | char (c : Char)
  | reference (name : List Char)
  deriving DecidableEq, Repr

def segments (cs : List Char) : List Segment :=
  match _h : reference? cs with
  | some (name, tail) => .reference name :: segments tail
  | none =>
    match cs with
    | [] => []
    | c :: rest => .char c :: segments rest
termination_by cs.length
decreasing_by
  · exact length_lt_of_reference? _h
  · simp

def value? (env : Environment) (name : List Char) : Option String :=
  env.text? (String.ofList name)

/-- A segment with its reference replaced; one to an unset variable yields nothing. -/
def expand (env : Environment) : Segment → List Char
  | .char c => [c]
  | .reference name => ((env.value? name).getD "").toList

def missing? (env : Environment) : Segment → Option String
  | .char _ => none
  | .reference name => if (env.value? name).isSome then none else some (String.ofList name)

def firstOccurrences (names : List String) : List String :=
  names.foldl (fun seen name ↦ if name ∈ seen then seen else seen ++ [name]) []

/-- A text with its references replaced by the values of their variables; refused if one of them
is unset. -/
def substitute (env : Environment) (text : String) : Except ConfigError String :=
  let parts := segments text.toList
  match firstOccurrences (parts.filterMap env.missing?) with
  | [] => .ok (String.ofList (parts.flatMap env.expand))
  | names => .error (.violation (.missingVariables names))

end MountSweep.Environment
