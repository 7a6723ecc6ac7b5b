import MountSweep.Bytes

namespace MountSweep.Shell

mutual

/-- A part of a word. A quoted part is never split, and nothing in it is a pattern. -/
inductive Piece
  | text (quoted : Bool) (bs : Bytes)
  | parameter (quoted : Bool) (name : Bytes) (use : Use)
  | arithmetic (quoted : Bool) (word : List Piece)
  | script (quoted : Bool) (text : List Char)
  | output (quoted : Bool) (bs : Bytes)

/-- What becomes of the value of a parameter. For the first four, the flag says that an empty
value counts as missing. -/
inductive Use
  | plain
  | length
  | orWord (orEmpty : Bool) (word : List Piece)
  | assign (orEmpty : Bool) (word : List Piece)
  | ifSet (orEmpty : Bool) (word : List Piece)
  | require (orEmpty : Bool) (word : List Piece)
  | cut (front longest : Bool) (pattern : List Piece)
  | wrong

end

abbrev Word := List Piece

inductive Target
  | input (path : Word)
  | output (append : Bool) (path : Word)
  | both (path : Word)
  | duplicate (word : Word)
  | text (word : Word)

structure Redirection where
  descriptor : Nat
  target : Target

inductive Command
  | simple (line : Nat) (assignments : List (Bytes × Word)) (words : List Word)
      (redirections : List Redirection)
  | pipeline (stages : List Command)
  | negated (c : Command)
  | andThen (a b : Command)
  | orElse (a b : Command)
  | sequence (cs : List Command)
  | background (c : Command)
  | loop (whileSuccess : Bool) (test body : Command)
  | each (name : Bytes) (values : Option (List Word)) (body : Command)
  | branch (test yes : Command) (no : Option Command)
  | select (word : Word) (arms : List (List Word × Command))
  | subshell (c : Command)
  | define (name : Bytes) (body : Command)
  | redirected (line : Nat) (c : Command) (redirections : List Redirection)

def Command.nothing : Command := .sequence []

mutual

def Piece.script? : Piece → Option (List Char)
  | .text .. | .output .. => none
  | .script _ text => some text
  | .parameter _ _ use => use.script?
  | .arithmetic _ word => scriptIn? word

def Use.script? : Use → Option (List Char)
  | .plain | .length | .wrong => none
  | .orWord _ word | .assign _ word | .ifSet _ word | .require _ word | .cut _ _ word =>
    scriptIn? word

def scriptIn? : List Piece → Option (List Char)
  | [] => none
  | p :: rest => p.script?.orElse fun _ ↦ scriptIn? rest

end

mutual

def Piece.fill (bs : Bytes) : Piece → Piece
  | .text quoted held => .text quoted held
  | .output quoted held => .output quoted held
  | .script quoted _ => .output quoted bs
  | .parameter quoted name use => .parameter quoted name (use.fill bs)
  | .arithmetic quoted word => .arithmetic quoted (fillIn bs word)

def Use.fill (bs : Bytes) : Use → Use
  | .plain => .plain
  | .length => .length
  | .wrong => .wrong
  | .orWord orEmpty word => .orWord orEmpty (fillIn bs word)
  | .assign orEmpty word => .assign orEmpty (fillIn bs word)
  | .ifSet orEmpty word => .ifSet orEmpty (fillIn bs word)
  | .require orEmpty word => .require orEmpty (fillIn bs word)
  | .cut front longest word => .cut front longest (fillIn bs word)

def fillIn (bs : Bytes) : List Piece → List Piece
  | [] => []
  | p :: rest => if p.script?.isSome then p.fill bs :: rest else p :: fillIn bs rest

end

def Target.word : Target → Word
  | .input w | .output _ w | .both w | .duplicate w | .text w => w

def Target.withWord (w : Word) : Target → Target
  | .input _ => .input w
  | .output append _ => .output append w
  | .both _ => .both w
  | .duplicate _ => .duplicate w
  | .text _ => .text w

def fillFirst (wordOf : α → Word) (withWord : Word → α → α) (bs : Bytes) : List α → List α
  | [] => []
  | a :: rest =>
    if (scriptIn? (wordOf a)).isSome then withWord (fillIn bs (wordOf a)) a :: rest
    else a :: fillFirst wordOf withWord bs rest

namespace Command

def words : Command → List Word
  | .simple _ assignments ws rs => ws ++ rs.map (·.target.word) ++ assignments.map (·.2)
  | .each _ (some ws) _ => ws
  | .select w _ => [w]
  | .redirected _ _ rs => rs.map (·.target.word)
  | _ => []

def script? (c : Command) : Option (List Char) := c.words.findSome? scriptIn?

def fillRedirections (bs : Bytes) : List Redirection → List Redirection :=
  fillFirst (·.target.word) (fun w r ↦ { r with target := r.target.withWord w }) bs

def fill (bs : Bytes) : Command → Command
  | .simple line assignments ws rs =>
    let isOpen (words : List Word) : Bool := (words.findSome? scriptIn?).isSome
    if isOpen ws then .simple line assignments (fillFirst id (fun w _ ↦ w) bs ws) rs
    else if isOpen (rs.map (·.target.word)) then
      .simple line assignments ws (fillRedirections bs rs)
    else .simple line (fillFirst (·.2) (fun w a ↦ (a.1, w)) bs assignments) ws rs
  | .each name (some ws) body => .each name (some (fillFirst id (fun w _ ↦ w) bs ws)) body
  | .select w arms => .select (fillIn bs w) arms
  | .redirected line c rs => .redirected line c (fillRedirections bs rs)
  | c => c

end Command

end MountSweep.Shell
