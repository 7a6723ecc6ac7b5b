import MountSweep.Glob.Basic

namespace MountSweep.Glob

inductive Fault
  | classUnclosed
  | rangeReversed (first last : Char)
  | choiceUnopened
  | choiceUnclosed
  | escapeDangling
  deriving DecidableEq, Repr

def Fault.message : Fault → String
  | classUnclosed => "unclosed character class; missing ']'"
  | rangeReversed first last =>
    "invalid range; '" ++ String.singleton first ++ "' > '" ++ String.singleton last ++ "'"
  | choiceUnopened => "unopened alternate group"
  | choiceUnclosed => "unclosed alternate group"
  | escapeDangling => "dangling '\\'"

/-- A choice that is open: the parts before it, last first, and its finished branches. -/
structure Open where
  outer : List GlobPart
  branches : List (List GlobPart) := []

/-- What was read: the parts of the current branch, last first, the open choices, innermost
first, and the character read before the last one. -/
structure Reading where
  parts : List GlobPart := []
  opened : List Open := []
  before : Option Char := none

namespace Reading

def push (r : Reading) (p : GlobPart) : Reading := { r with parts := p :: r.parts }

def pushStars (r : Reading) : Reading := (r.push .star).push .star

/-- The last part replaced by a double star, unless it is one at the edge already. -/
def replaceLast (r : Reading) (p : GlobPart) : Reading :=
  match r.parts with
  | .leading :: _ | .trailing :: _ => r
  | _ :: rest => { r with parts := p :: rest }
  | [] => r.push p

def openChoice (r : Reading) : Reading :=
  { r with parts := [], opened := ⟨r.parts, []⟩ :: r.opened }

def closeChoice (r : Reading) : Except Fault Reading :=
  match r.opened with
  | [] => .error .choiceUnopened
  | o :: rest =>
    .ok { r with
      parts := .choice (o.branches ++ [r.parts.reverse]) :: o.outer
      opened := rest }

/-- A comma begins the next branch of a choice, and stands for itself elsewhere. -/
def comma (r : Reading) : Reading :=
  match r.opened with
  | [] => r.push (.literal ',')
  | o :: rest =>
    { r with parts := [], opened := { o with branches := o.branches ++ [r.parts.reverse] } :: rest }

/-- A double star before the text `rest`, and what is left of that text: a slash after a double
star that fills a space of its own belongs to it. -/
def doubleStar (r : Reading) (rest : List Char) : Reading × List Char :=
  let inChoice := !r.opened.isEmpty
  let slash := rest.head? = some '/'
  let ends := rest.isEmpty || inChoice && (rest.head? = some ',' || rest.head? = some '\x7d')
  let begins := r.before = some '/' ||
    inChoice && (r.before = some ',' || r.before = some '\x7b')
  let plain := ({ r.pushStars with before := some '*' }, rest)
  if r.parts.isEmpty then
    if rest.isEmpty || slash then ({ r.push .leading with before := some '/' }, rest.tail)
    else plain
  else if !begins then plain
  else if ends then ({ r.replaceLast .trailing with before := some '*' }, rest)
  else if slash then ({ r.replaceLast .between with before := some '/' }, rest.tail)
  else plain

theorem length_doubleStar_le (r : Reading) (rest : List Char) :
    (r.doubleStar rest).2.length ≤ rest.length := by
  simp only [doubleStar]
  repeat' split
  all_goals simp

end Reading

/-- What stands in brackets after the mark of negation, and what comes after them. A closing
bracket in front stands for itself. -/
def splitClass : List Char → Option (List Char × List Char)
  | [] => none
  | c :: rest =>
    match rest.dropWhile (· ≠ ']') with
    | [] => none
    | _ :: after => some (c :: rest.takeWhile (· ≠ ']'), after)

theorem length_splitClass {cs body after : List Char} (h : splitClass cs = some (body, after)) :
    after.length < cs.length := by
  unfold splitClass at h
  split at h
  · cases h
  · rename_i c rest
    split at h
    · cases h
    · rename_i d more heq
      have := (List.dropWhile_sublist (fun x ↦ decide (x ≠ ']')) (l := rest)).length_le
      rw [heq] at this
      simp only [Option.some.injEq, Prod.mk.injEq] at h
      simp only [List.length_cons] at this ⊢
      rw [← h.2]
      omega

/-- The ranges of the characters in brackets after a first one; `last` is the range read last. -/
def classRanges (last : Char × Char) : List Char → Except Fault (List (Char × Char))
  | [] => .ok [last]
  | ['-'] => .ok [last, ('-', '-')]
  | '-' :: c :: rest =>
    if c < last.1 then .error (.rangeReversed last.1 c) else classRanges (last.1, c) rest
  | c :: rest => (last :: ·) <$> classRanges (c, c) rest

def classPart (cs : List Char) : Except Fault (GlobPart × List Char) :=
  let negated := cs.head? = some '!' || cs.head? = some '^'
  match splitClass (if negated then cs.tail else cs) with
  | some (c :: body, after) =>
    (classRanges (c, c) body).map fun ranges ↦ (.oneOf negated ranges, after)
  | _ => .error .classUnclosed

theorem length_classPart {cs after : List Char} {p : GlobPart}
    (h : classPart cs = .ok (p, after)) : after.length < cs.length := by
  unfold classPart at h
  simp only at h
  split at h
  · rename_i c body rest heq
    have hlen := length_splitClass heq
    have : (if (cs.head? = some '!' || cs.head? = some '^') = true then cs.tail else cs).length
        ≤ cs.length := by split <;> simp
    cases hr : classRanges (c, c) body with
    | error e => simp [hr, Except.map] at h
    | ok ranges =>
      simp only [hr, Except.map, Except.ok.injEq, Prod.mk.injEq] at h
      rw [← h.2]
      omega
  · cases h

def read (r : Reading) (cs : List Char) : Except Fault Reading :=
  match cs with
  | [] => .ok r
  | '?' :: rest => read { r.push .any with before := some '?' } rest
  | '*' :: '*' :: rest =>
    let next := r.doubleStar rest
    have := r.length_doubleStar_le rest
    read next.1 next.2
  | '*' :: rest => read { r.push .star with before := some '*' } rest
  | '[' :: rest =>
    match h : classPart rest with
    | .error e => .error e
    | .ok (p, after) =>
      have := length_classPart h
      read { r.push p with before := some ']' } after
  | '\x7b' :: rest => read { r.openChoice with before := some '\x7b' } rest
  | '\x7d' :: rest =>
    match r.closeChoice with
    | .error e => .error e
    | .ok r => read { r with before := some '\x7d' } rest
  | ',' :: rest => read { r.comma with before := some ',' } rest
  | '\\' :: c :: rest => read { r.push (.literal c) with before := some c } rest
  | ['\\'] => .error .escapeDangling
  | c :: rest => read { r.push (.literal c) with before := some c } rest
termination_by cs.length
decreasing_by all_goals simp_all <;> omega

def ofText? (text : String) : Except Fault Glob := do
  let r ← read {} text.toList
  if r.opened.isEmpty then return ⟨r.parts.reverse⟩
  else throw .choiceUnclosed

end MountSweep.Glob
