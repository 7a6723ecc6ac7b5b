import MountSweep.Regex.Automaton
import MountSweep.Regex.Pattern.Group

namespace MountSweep.Regex

def nestLimit : Nat := 250

def Pattern.ofChars? (f : Flags) (text : List Char) : Except Fault Pattern := do
  let (p, s) ← (Reader.groupBody (text.length + 1) [] []).run ⟨text, [], f⟩
  if s.rest ≠ [] then throw .groupUnopened
  else if nestLimit < p.height then throw .tooDeep
  else return p

def parse? (f : Flags) (text : List Char) : Except Fault Regex := do
  let p := Plan.ofPattern (← Pattern.ofChars? f text)
  if p.fits then return p.regex else throw .tooLarge

/-- A text with a backslash before every character that means something in a pattern. -/
def escaped (text : List Char) : List Char :=
  text.flatMap fun c ↦ if Reader.isMeta c then ['\\', c] else [c]

end MountSweep.Regex
