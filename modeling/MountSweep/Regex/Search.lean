import MountSweep.Regex.Basic

namespace MountSweep.Regex

/-- A part of a text that was searched: a character outside all matches, or a match. -/
inductive Piece
  | kept (c : Char)
  | found (text : List Char)
  deriving DecidableEq, Repr

def Piece.text : Piece → List Char
  | kept c => [c]
  | found t => t

/-- A text cut into matches and other characters. `before` is the character in front of it, and
`adjacent` says that a match ended right there. -/
def piecesFrom (r : Regex) (before : Option Char) (adjacent : Bool) (cs : List Char) :
    List Piece :=
  match r.matchLength? before cs with
  | some (n + 1) =>
    if _h : n < cs.length then
      .found (cs.take (n + 1)) ::
        piecesFrom r (cs.take (n + 1)).getLast? true (cs.drop (n + 1))
    else [.found cs]
  | some 0 =>
    let here := if adjacent then [] else [Piece.found []]
    match cs with
    | [] => here
    | c :: rest => here ++ .kept c :: piecesFrom r (some c) false rest
  | none =>
    match cs with
    | [] => []
    | c :: rest => .kept c :: piecesFrom r (some c) false rest
termination_by cs.length
decreasing_by
  · simp only [List.length_drop]; omega
  · simp
  · simp

/-- A text cut into the matches of an expression and the characters between them. -/
def pieces (r : Regex) (cs : List Char) : List Piece :=
  piecesFrom r none false cs

def matches? (r : Regex) (cs : List Char) : List (List Char) :=
  (r.pieces cs).filterMap fun
    | .kept _ => none
    | .found t => some t

def dropFound : Nat → List Piece → List Char
  | _, [] => []
  | 0, p :: rest => p.text ++ dropFound 0 rest
  | n + 1, .found _ :: rest => dropFound n rest
  | n + 1, .kept c :: rest => c :: dropFound (n + 1) rest

def eraseAll (r : Regex) (cs : List Char) : List Char :=
  (r.pieces cs).flatMap fun
    | .kept c => [c]
    | .found _ => []

def eraseUpTo (r : Regex) (limit : Nat) (cs : List Char) : List Char :=
  if limit = 0 then r.eraseAll cs else dropFound limit (r.pieces cs)

def findFrom? (r : Regex) (before : Option Char) : List Char → Option (List Char)
  | [] => (r.matchLength? before []).map fun _ ↦ []
  | c :: rest =>
    match r.matchLength? before (c :: rest) with
    | some n => some ((c :: rest).take n)
    | none => findFrom? r (some c) rest

def find? (r : Regex) (cs : List Char) : Option (List Char) :=
  findFrom? r none cs

end MountSweep.Regex
