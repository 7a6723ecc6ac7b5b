import MountSweep.Regex.CharSet

namespace MountSweep.Regex

open Unicode

def looseName (name : String) : String :=
  let cs := name.toList
  let (starts_is, cs) :=
    match cs with
    | a :: b :: rest =>
      if (a = 'i' ∨ a = 'I') ∧ (b = 's' ∨ b = 'S') then (true, rest) else (false, cs)
    | _ => (false, cs)
  let kept := (cs.filter fun c ↦ c ≠ ' ' ∧ c ≠ '_' ∧ c ≠ '-' ∧ c.toNat < 0x80).map Char.toLower
  -- The letter c names the category of control and other characters; `isc` names a property.
  if starts_is ∧ kept = ['c'] then "isc" else String.ofList kept

def isNamed (loose : String) (names : List String) : Bool :=
  names.any fun n ↦ looseName n = loose

def categoriesNamed? (loose : String) : Option CharSet :=
  if loose = "any" then some .all
  else if loose = "ascii" then some (.range '\x00' '\x7f')
  else (Category.named.find? fun (names, _) ↦ isNamed loose names).map fun (_, cs) ↦ .category cs

/-- The script of a loose name; that of unassigned code points cannot be named. -/
def scriptNamed? (loose : String) : Option Script :=
  Script.all.find? fun s ↦ s ≠ .unknown && isNamed loose s.names

def binaryNamed? (loose : String) : Option CharSet :=
  (BinaryProperty.all.find? fun p ↦ isNamed loose p.names).map .binary

/-- The characters of a property given by its name alone. The short names of three properties
are taken by categories and a script. -/
def propertyNamed? (name : String) : Option CharSet :=
  let loose := looseName name
  let taken := loose = "cf" ∨ loose = "sc" ∨ loose = "lc"
  match if taken then none else binaryNamed? loose with
  | some s => some s
  | none => (categoriesNamed? loose).or ((scriptNamed? loose).map .script)

def versionNames (v : Nat) : List String :=
  let major := toString (v / 10)
  let minor := toString (v % 10)
  [major ++ "." ++ minor, "V" ++ major ++ "_" ++ minor]

def versionNamed? (loose : String) : Option CharSet :=
  (AgeTable.versions.find? fun v ↦ isNamed loose (versionNames v)).map .since

def propertyValue? (name value : String) : Option CharSet :=
  let property := looseName name
  let loose := looseName value
  if isNamed property ["gc", "General_Category"] then categoriesNamed? loose
  else if isNamed property ["sc", "Script"] then (scriptNamed? loose).map .script
  else if isNamed property ["scx", "Script_Extensions"] then (scriptNamed? loose).map .usedIn
  else if isNamed property ["Age"] then versionNamed? loose
  else if isNamed property ["GCB", "Grapheme_Cluster_Break"] then
    (GraphemeBreak.all.find? fun b ↦ isNamed loose b.names).map .graphemeBreak
  else if isNamed property ["WB", "Word_Break"] then
    (WordBreak.all.find? fun b ↦ isNamed loose b.names).map .wordBreak
  else if isNamed property ["SB", "Sentence_Break"] then
    (SentenceBreak.all.find? fun b ↦ isNamed loose b.names).map .sentenceBreak
  else none

end MountSweep.Regex
