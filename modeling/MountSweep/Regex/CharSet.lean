import MountSweep.Unicode.Segmentation

namespace MountSweep.Regex

open Unicode

inductive CharSet
  | empty
  | all
  | single (c : Char)
  | range (first last : Char)
  | word
  | digit
  | space
  | category (cs : List Category)
  | script (s : Script)
  | usedIn (s : Script)
  | binary (p : BinaryProperty)
  | since (version : Nat)
  | graphemeBreak (b : GraphemeBreak)
  | wordBreak (b : WordBreak)
  | sentenceBreak (b : SentenceBreak)
  | foldsLike (c : Char)
  | union (a b : CharSet)
  | inter (a b : CharSet)
  | diff (a b : CharSet)
  | compl (a : CharSet)
  | folded (a : CharSet)
  | asciiFolded (a : CharSet)
  deriving DecidableEq, Repr

namespace CharSet

/-- Whether a character is in a set. `since v` holds what the versions of the Unicode standard up to
`v` have brought, `foldsLike c` holds what folds to the same character as
`c`, and a folded set holds every case variant of its members. -/
def contains : CharSet → Char → Bool
  | empty, _ => false
  | all, _ => true
  | single c, x => x == c
  | range first last, x => first ≤ x && x ≤ last
  | word, x => isWord x
  | digit, x => isDigit x
  | space, x => isSpace x
  | category cs, x => cs.contains (Unicode.category x)
  | script s, x => Unicode.script x = s
  | usedIn s, x => (scriptExtensions x).contains s
  | binary p, x => hasProperty p x
  | since version, x => (age x).any (· ≤ version)
  | graphemeBreak b, x => Unicode.graphemeBreak x = some b
  | wordBreak b, x => Unicode.wordBreak x = some b
  | sentenceBreak b, x => Unicode.sentenceBreak x = some b
  | foldsLike c, x => fold x == fold c
  | union a b, x => a.contains x || b.contains x
  | inter a b, x => a.contains x && b.contains x
  | diff a b, x => a.contains x && !b.contains x
  | compl a, x => !a.contains x
  | folded a, x => (caseVariants x).any a.contains
  | asciiFolded a, x => (asciiCaseVariants x).any a.contains

def unions : List CharSet → CharSet
  | [] => empty
  | [a] => a
  | a :: rest => union a (unions rest)

def symmDiff (a b : CharSet) : CharSet :=
  union (diff a b) (diff b a)

def isAscii : CharSet → Bool
  | empty => true
  | single c => c.toNat < 0x80
  | range first last => last.toNat < 0x80 || last < first
  | union a b => a.isAscii && b.isAscii
  | inter a b => a.isAscii || b.isAscii
  | diff a _ => a.isAscii
  | asciiFolded a => a.isAscii
  | _ => false

end CharSet

end MountSweep.Regex
