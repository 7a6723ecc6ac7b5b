import MountSweep.Bytes

namespace MountSweep.Yaml

inductive Fault
  | controlCharacter
  | noTokenHere
  | expectedColon
  | sequenceEntryHere
  | mappingKeyHere
  | mappingValueHere
  | colonInFlow
  | tabInIndentation
  | directiveName
  | directiveVersion
  | directiveRest
  | anchorName
  | tagHandle
  | tagUri
  | tagEnd
  | blockScalarHead
  | zeroIndentation
  | indicatorInQuotes
  | endInQuotes
  | unknownEscape
  | escapeDigits
  | escapeCharacter
  | repeatedDirective
  | incompatibleVersion
  | undefinedHandle
  | expectedDocumentStart
  | expectedNode
  | expectedDash
  | expectedKey
  | expectedCommaOrBracket
  | expectedCommaOrBrace
  | unknownAnchor
  | unfinished
  deriving DecidableEq, Repr

def Fault.message : Fault → String
  | .controlCharacter => "control characters are not allowed"
  | .noTokenHere => "found character that cannot start any token"
  | .expectedColon => "could not find expected ':'"
  | .sequenceEntryHere => "block sequence entries are not allowed in this context"
  | .mappingKeyHere => "mapping keys are not allowed in this context"
  | .mappingValueHere => "mapping values are not allowed in this context"
  | .colonInFlow => "found unexpected ':'"
  | .tabInIndentation => "found a tab character where an indentation space is expected"
  | .directiveName => "found unknown directive name"
  | .directiveVersion => "did not find expected version number"
  | .directiveRest => "did not find expected comment or line break after a directive"
  | .anchorName => "did not find expected alphabetic or numeric character"
  | .tagHandle => "did not find expected '!'"
  | .tagUri => "did not find expected tag URI"
  | .tagEnd => "did not find expected whitespace or line break after a tag"
  | .blockScalarHead => "did not find expected comment or line break"
  | .zeroIndentation => "found an indentation indicator equal to 0"
  | .indicatorInQuotes => "found unexpected document indicator"
  | .endInQuotes => "found unexpected end of stream"
  | .unknownEscape => "found unknown escape character"
  | .escapeDigits => "did not find expected hexadecimal number"
  | .escapeCharacter => "found invalid Unicode character escape code"
  | .repeatedDirective => "found duplicate directive"
  | .incompatibleVersion => "found incompatible YAML document"
  | .undefinedHandle => "found undefined tag handle"
  | .expectedDocumentStart => "did not find expected <document start>"
  | .expectedNode => "did not find expected node content"
  | .expectedDash => "did not find expected '-' indicator"
  | .expectedKey => "did not find expected key"
  | .expectedCommaOrBracket => "did not find expected ',' or ']'"
  | .expectedCommaOrBrace => "did not find expected ',' or '\x7d'"
  | .unknownAnchor => "unknown anchor"
  | .unfinished => "the text goes on after all that could be read"

inductive ScalarStyle
  | plain | singleQuoted | doubleQuoted | literal | folded
  deriving DecidableEq, Repr

/-- A token. A tag is a handle and a suffix; what is behind the handle is bytes, since escapes may
spell any. -/
inductive Token
  | versionDirective (major minor : Nat)
  | tagDirective (handle : List Char) (start : Bytes)
  | documentStart
  | documentEnd
  | blockSequenceStart
  | blockMappingStart
  | blockEnd
  | flowSequenceStart
  | flowSequenceEnd
  | flowMappingStart
  | flowMappingEnd
  | blockEntry
  | flowEntry
  | key
  | value
  | alias (name : List Char)
  | anchor (name : List Char)
  | tag (handle : List Char) (suffix : Bytes)
  | scalar (value : List Char) (style : ScalarStyle)
  deriving DecidableEq, Repr

end MountSweep.Yaml
