import MountSweep.Text.Letters
import MountSweep.Regex.Search

namespace MountSweep

inductive GlobPart
  | literal (c : Char)
  | any
  | star
  | leading
  | trailing
  | between
  | oneOf (negated : Bool) (ranges : List (Char × Char))
  | choice (branches : List (List GlobPart))
  deriving Repr

structure Glob where
  parts : List GlobPart
  deriving Repr

namespace Glob

def lettersOf (c : Char) : List Char :=
  Bytes.letters (String.utf8EncodeChar c)

/-- The bytes of a range: from the last byte of its first character to the first byte of its last
one, with the other bytes of the two standing for themselves. -/
def rangeSet (first last : Char) : Regex.CharSet :=
  let single (cs : List Char) := Regex.CharSet.unions (cs.map .single)
  if first = last then single (lettersOf first)
  else
    .union (single (lettersOf first).dropLast)
      (.union
        (.range ((lettersOf first).getLastD first) ((lettersOf last).headD last))
        (single (lettersOf last).tail))

def anything : Regex := .iterate (.oneOf .all) 0 none true

def slash : Regex := .literal ['/']

mutual

def partRegex? : GlobPart → Option Regex
  | .literal c => some (.literal (lettersOf c))
  | .any => some (.oneOf .all)
  | .star => some anything
  | .leading => some (.alt (.iterate slash 0 (some 1) true) (.seq anything slash))
  | .trailing => some (.seq slash anything)
  | .between => some (.alt slash (.seqs [slash, anything, slash]))
  | .oneOf negated ranges =>
    let set := Regex.CharSet.unions (ranges.map fun (a, b) ↦ rangeSet a b)
    some (.oneOf (if negated then .compl set else set))
  | .choice branches =>
    match branchRegexes branches with
    | [] => none
    | rs => some (.alts rs)

/-- The expression of some parts, one after another, unless nothing is left of them. -/
def partsRegex? : List GlobPart → Option Regex
  | [] => none
  | p :: rest =>
    match partRegex? p, partsRegex? rest with
    | some a, some b => some (.seq a b)
    | some a, none => some a
    | none, b => b

def branchRegexes : List (List GlobPart) → List Regex
  | [] => []
  | b :: rest =>
    match partsRegex? b with
    | some r => r :: branchRegexes rest
    | none => branchRegexes rest

end

/-- The expression that a glob stands for. A double star alone stands for anything. -/
def regex (g : Glob) : Regex :=
  match g.parts with
  | [.leading] => anything
  | parts => (partsRegex? parts).getD .empty

def isMatch (g : Glob) (name : String) : Bool :=
  ((Regex.seqs [.look .textStart, g.regex, .look .textEnd]).matchLength? none
    (Bytes.letters (Bytes.ofString name))).isSome

end Glob

end MountSweep
