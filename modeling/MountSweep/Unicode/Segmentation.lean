import MountSweep.Unicode.BreakTable
import MountSweep.Unicode.Character

namespace MountSweep.Unicode

def exception? {α : Type} (n : Nat) : List (Nat × Nat × α) → Option α
  | [] => none
  | (first, last, value) :: rest =>
    if n < first then none else if n ≤ last then some value else exception? n rest

def graphemeBreak (c : Char) : Option GraphemeBreak :=
  match exception? c.toNat BreakTable.grapheme with
  | some value => value
  | none =>
    let g := category c
    if hasProperty .graphemeExtend c || hasProperty .emojiModifier c then some .extend
    else if hasProperty .regionalIndicator c then some .regionalIndicator
    else if g = .Mc then some .spacingMark
    else if hasProperty .prependedConcatenationMark c then some .prepend
    else if [.Cc, .Cf, .Zl, .Zp].contains g ||
        (g = .Cn && hasProperty .defaultIgnorableCodePoint c) then
      some .control
    else if 0xAC00 ≤ c.toNat ∧ c.toNat ≤ 0xD7A3 then
      -- syllables of two letters and of three
      if (c.toNat - 0xAC00) % 28 = 0 then some .lv else some .lvt
    else none

def wordBreak (c : Char) : Option WordBreak :=
  match exception? c.toNat BreakTable.word with
  | some value => value
  | none =>
    let g := category c
    let s := script c
    if hasProperty .graphemeExtend c || hasProperty .emojiModifier c || g = .Mc then some .extend
    else if s = .hebrew ∧ g = .Lo then some .hebrewLetter
    else if s = .katakana then some .katakana
    else if hasProperty .alphabetic c && !hasProperty .ideographic c && s ≠ .hiragana then
      some .aLetter
    else if hasProperty .regionalIndicator c then some .regionalIndicator
    else
      match g with
      | .Nd => some .numeric
      | .Pc => some .extendNumLet
      | .Cf => some .format
      | .Zs => some .wSegSpace
      | _ => none

def sentenceBreak (c : Char) : Option SentenceBreak :=
  match exception? c.toNat BreakTable.sentence with
  | some value => value
  | none =>
    let g := category c
    if hasProperty .lowercase c then some .lower
    else if hasProperty .uppercase c || g = .Lt then some .upper
    else if hasProperty .sentenceTerminal c then some .sTerm
    else if hasProperty .alphabetic c && g ≠ .Mn && g ≠ .Mc then some .oLetter
    else
      match g with
      | .Lo | .Lm | .Nl => some .oLetter
      | .Nd => some .numeric
      | .Mn | .Mc | .Me => some .extend
      | .Cf => some .format
      | .Zs => some .sp
      | .Ps | .Pe | .Pi | .Pf => some .close
      | _ => none

end MountSweep.Unicode
