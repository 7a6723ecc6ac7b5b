import MountSweep.Bytes
import MountSweep.Regex.Pattern.Basic
import MountSweep.Regex.Ranges

namespace MountSweep.Regex

/-- A plan. A text is given by sets, each with its only member; the empty text matches nothing but
itself, and the empty set matches nothing at all. -/
inductive Plan
  | text (cs : List (CharSet × Char))
  | oneOf (s : CharSet) (rs : Ranges)
  | look (l : Look)
  | capture (p : Plan)
  | iterate (p : Plan) (min : Nat) (max : Option Nat) (greedy : Bool)
  | seq (ps : List Plan)
  | choice (ps : List Plan)
  deriving Repr, Inhabited

namespace Plan

mutual

/-- Whether two plans are the same. Groups that capture are numbered, so no two of them are. -/
def same : Plan → Plan → Bool
  | .text a, .text b => a.map (·.2) = b.map (·.2)
  | .oneOf _ a, .oneOf _ b => a = b
  | .look a, .look b => a = b
  | .iterate p min max greedy, .iterate q min' max' greedy' =>
    same p q && min = min' && max = max' && greedy = greedy'
  | .seq ps, .seq qs => sameAll ps qs
  | .choice ps, .choice qs => sameAll ps qs
  | _, _ => false

def sameAll : List Plan → List Plan → Bool
  | [], [] => true
  | p :: ps, q :: qs => same p q && sameAll ps qs
  | _, _ => false

end

def encodedLength (n : Nat) : Nat := (Char.ofNat n).utf8Size

def textBytes (cs : List (CharSet × Char)) : Bytes := Bytes.ofChars (cs.map (·.2))

def textLength (cs : List (CharSet × Char)) : Nat := (textBytes cs).length

mutual

def minLength? : Plan → Option Nat
  | .text cs => some (textLength cs)
  | .oneOf _ rs => rs.head?.map fun r ↦ encodedLength r.1
  | .look _ => some 0
  | .capture p => p.minLength?
  | .iterate p min _ _ => p.minLength?.map (· * min)
  | .seq ps => minSum? ps
  | .choice ps => leastMin? ps

def minSum? : List Plan → Option Nat
  | [] => some 0
  | p :: ps => p.minLength?.bind fun n ↦ (minSum? ps).map (n + ·)

/-- The least number of bytes that one of several plans matches, if each matches something. -/
def leastMin? : List Plan → Option Nat
  | [] => none
  | [p] => p.minLength?
  | p :: ps => p.minLength?.bind fun n ↦ (leastMin? ps).map (Nat.min n)

end

mutual

def maxLength? : Plan → Option Nat
  | .text cs => some (textLength cs)
  | .oneOf _ rs => rs.getLast?.map fun r ↦ encodedLength r.2
  | .look _ => some 0
  | .capture p => p.maxLength?
  | .iterate p _ max _ => max.bind fun n ↦ p.maxLength?.map (· * n)
  | .seq ps => maxSum? ps
  | .choice ps => greatestMax? ps

def maxSum? : List Plan → Option Nat
  | [] => some 0
  | p :: ps => p.maxLength?.bind fun n ↦ (maxSum? ps).map (n + ·)

/-- The greatest number of bytes that one of several plans matches, if there is a limit. -/
def greatestMax? : List Plan → Option Nat
  | [] => none
  | [p] => p.maxLength?
  | p :: ps => p.maxLength?.bind fun n ↦ (greatestMax? ps).map (Nat.max n)

end

mutual

def beginsWith (l : Look) : Plan → Bool
  | .look k => k = l
  | .capture p => p.beginsWith l
  | .iterate p min _ _ => 0 < min && p.beginsWith l
  | .seq ps => firstBegins l ps
  | .choice ps => allBegin l ps
  | .text _ | .oneOf .. => false

/-- Whether one of the plans in front, up to one that may match more than the empty text, matches
only where a condition holds. -/
def firstBegins (l : Look) : List Plan → Bool
  | [] => false
  | p :: ps => p.beginsWith l || (p.maxLength? = some 0 && firstBegins l ps)

def allBegin (l : Look) : List Plan → Bool
  | [] => true
  | p :: ps => p.beginsWith l && allBegin l ps

end

mutual

def endsWith (l : Look) : Plan → Bool
  | .look k => k = l
  | .capture p => p.endsWith l
  | .iterate p min _ _ => 0 < min && p.endsWith l
  | .seq ps => (lastEnds l ps).1
  | .choice ps => allEnd l ps
  | .text _ | .oneOf .. => false

/-- Whether one of the plans at the end, from the last one that may match more than the empty text
on, matches only where a condition holds; and whether all of them match the empty text alone. -/
def lastEnds (l : Look) : List Plan → Bool × Bool
  | [] => (false, true)
  | p :: ps =>
    let (found, onlyEmpty) := lastEnds l ps
    (found || (onlyEmpty && p.endsWith l), onlyEmpty && p.maxLength? = some 0)

def allEnd (l : Look) : List Plan → Bool
  | [] => true
  | p :: ps => p.endsWith l && allEnd l ps

end

def ofRanges (s : CharSet) (rs : Ranges) : Plan :=
  match rs with
  | [(a, b)] => if a = b then .text [(s, Char.ofNat a)] else .oneOf s rs
  | _ => .oneOf s rs

/-- Plans with the texts among them joined to those behind them and the empty ones left out. -/
def joinTexts (ps : List Plan) : List Plan :=
  ps.foldr (fun p joined ↦
    match p, joined with
    | .text [], _ => joined
    | .text a, .text b :: more => .text (a ++ b) :: more
    | _, _ => p :: joined) []

def ofSeq (ps : List Plan) : Plan :=
  match joinTexts (ps.flatMap fun | .seq qs => qs | p => [p]) with
  | [] => .text []
  | [p] => p
  | qs => .seq qs

def characters? : Plan → Option (CharSet × Ranges)
  | .oneOf s rs => some (s, rs)
  | .text [(s, c)] => some (s, [(c.toNat, c.toNat)])
  | _ => none

/-- The number of plans that several sequences have in common in front; none if one of them is no
sequence. -/
def commonLength : List Plan → Nat
  | .seq ps :: rest =>
    rest.foldl (fun n q ↦
      match q with
      | .seq qs => ((ps.take n).zip qs).takeWhile (fun (a, b) ↦ same a b) |>.length
      | _ => 0) ps.length
  | _ => 0

mutual

def size : Plan → Nat
  | .text _ | .oneOf .. | .look _ => 1
  | .capture p => p.size + 1
  | .iterate p _ _ _ => p.size + 1
  | .seq ps => sizeAll ps + 1
  | .choice ps => sizeAll ps + 1

def sizeAll : List Plan → Nat
  | [] => 0
  | p :: ps => p.size + sizeAll ps

end

/-- A choice between plans. Each round takes plans from the front of all branches; the fuel counts
nodes. -/
def ofChoice (fuel : Nat) (ps : List Plan) : Plan :=
  match ps.flatMap fun | .choice qs => qs | p => [p] with
  | [] => .oneOf .empty []
  | [p] => p
  | qs =>
    match qs.mapM characters? with
    | some sets => ofRanges (.unions (sets.map (·.1))) (.ofList (sets.flatMap (·.2)))
    | none =>
      match fuel, commonLength qs with
      | 0, _ | _, 0 => .choice qs
      | fuel + 1, n =>
        let parts := fun | .seq rs => rs | p => [p]
        let front := (qs.head?.map parts).getD []
        ofSeq (front.take n ++ [ofChoice fuel (qs.map fun q ↦ ofSeq ((parts q).drop n))])

def ofIterate (p : Plan) (min : Nat) (max : Option Nat) (greedy : Bool) : Plan :=
  let (min, max) :=
    if p.maxLength? = some 0 then (Nat.min min 1, some ((max.map fun n ↦ Nat.min n 1).getD 1))
    else (min, max)
  if min = 0 ∧ max = some 0 then .text []
  else if min = 1 ∧ max = some 1 then p
  else .iterate p min max greedy

mutual

def ofPattern : Pattern → Plan
  | .directive => .text []
  | .oneOf s _ => ofRanges s s.ranges
  | .look l => .look l
  | .group captures p => if captures then .capture (ofPattern p) else ofPattern p
  | .iterate p min max greedy => ofIterate (ofPattern p) min max greedy
  | .seq ps => ofSeq (ofPatterns ps)
  | .choice ps =>
    let plans := ofPatterns ps
    ofChoice (sizeAll plans) plans

def ofPatterns : List Pattern → List Plan
  | [] => []
  | p :: ps => ofPattern p :: ofPatterns ps

end

mutual

def regexes : Plan → List Regex
  | .text cs => cs.map fun (s, _) ↦ Regex.oneOf s
  | .oneOf s _ => [Regex.oneOf s]
  | .look l => [Regex.look l]
  | .capture p => p.regexes
  | .iterate p min max greedy =>
    let r := seqs p.regexes
    if min = 0 ∧ max = none ∧ !r.nullable then [Regex.again r greedy]
    else [Regex.iterate r min max greedy]
  | .seq ps => sequence ps
  | .choice ps => [alts (branches ps)]

def sequence : List Plan → List Regex
  | [] => []
  | p :: ps => p.regexes ++ sequence ps

def branches : List Plan → List Regex
  | [] => []
  | p :: ps => seqs p.regexes :: branches ps

end

def regex (p : Plan) : Regex := seqs p.regexes

end Plan

end MountSweep.Regex
