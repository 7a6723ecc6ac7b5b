namespace MountSweep.Regex

inductive Fault
  | unexpectedEnd
  | groupUnclosed
  | groupUnopened
  | groupNameInvalid
  | groupNameEmpty
  | groupNameRepeated
  | lookAround
  | flagUnknown
  | flagRepeated
  | flagDangling
  | nothingToRepeat
  | countUnclosed
  | countEmpty
  | countTooLarge
  | countReversed
  | classUnclosed
  | rangeReversed
  | rangeEnd
  | escapeUnknown
  | backreference
  | hexInvalid
  | boundaryUnknown
  | propertyUnknown
  | propertyWithoutUnicode
  | notUtf8
  | tooDeep
  | tooLarge
  deriving DecidableEq, Repr

def Fault.message : Fault → String
  | unexpectedEnd => "the pattern ends too early"
  | groupUnclosed => "unclosed group"
  | groupUnopened => "unopened group"
  | groupNameInvalid => "invalid group name"
  | groupNameEmpty => "empty group name"
  | groupNameRepeated => "duplicate group name"
  | lookAround => "look-around is not supported"
  | flagUnknown => "unrecognized flag"
  | flagRepeated => "duplicate flag"
  | flagDangling => "dangling flag negation"
  | nothingToRepeat => "repetition operator missing expression"
  | countUnclosed => "unclosed counted repetition"
  | countEmpty => "repetition quantifier expects a decimal number"
  | countTooLarge => "decimal number too large"
  | countReversed => "invalid repetition count range"
  | classUnclosed => "unclosed character class"
  | rangeReversed => "invalid character class range"
  | rangeEnd => "invalid range boundary"
  | escapeUnknown => "unrecognized escape sequence"
  | backreference => "backreferences are not supported"
  | hexInvalid => "invalid hexadecimal escape"
  | boundaryUnknown => "unrecognized word boundary"
  | propertyUnknown => "Unicode property not found"
  | propertyWithoutUnicode => "Unicode is not allowed here"
  | notUtf8 => "the pattern can match invalid UTF-8"
  | tooDeep => "the pattern is nested too deeply"
  | tooLarge => "the pattern is too large"

end MountSweep.Regex
