import MountSweep.Unicode.Category

namespace MountSweep.Unicode

inductive BinaryProperty
  | asciiHexDigit
  | alphabetic
  | bidiControl
  | bidiMirrored
  | caseIgnorable
  | cased
  | changesWhenCasefolded
  | changesWhenCasemapped
  | changesWhenLowercased
  | changesWhenTitlecased
  | changesWhenUppercased
  | dash
  | defaultIgnorableCodePoint
  | deprecated
  | diacritic
  | emoji
  | emojiComponent
  | emojiModifier
  | emojiModifierBase
  | emojiPresentation
  | extendedPictographic
  | extender
  | graphemeBase
  | graphemeExtend
  | graphemeLink
  | hexDigit
  | hyphen
  | idsBinaryOperator
  | idsTrinaryOperator
  | idsUnaryOperator
  | idCompatMathContinue
  | idCompatMathStart
  | idContinue
  | idStart
  | ideographic
  | joinControl
  | logicalOrderException
  | lowercase
  | math
  | modifierCombiningMark
  | noncharacterCodePoint
  | otherAlphabetic
  | otherDefaultIgnorableCodePoint
  | otherGraphemeExtend
  | otherIdContinue
  | otherIdStart
  | otherLowercase
  | otherMath
  | otherUppercase
  | patternSyntax
  | patternWhiteSpace
  | prependedConcatenationMark
  | quotationMark
  | radical
  | regionalIndicator
  | sentenceTerminal
  | softDotted
  | terminalPunctuation
  | unifiedIdeograph
  | uppercase
  | variationSelector
  | whiteSpace
  | xidContinue
  | xidStart
  deriving DecidableEq, Repr

namespace BinaryProperty

def all : List BinaryProperty := [
  .asciiHexDigit, .alphabetic, .bidiControl, .bidiMirrored, .caseIgnorable, .cased,
  .changesWhenCasefolded, .changesWhenCasemapped, .changesWhenLowercased,
  .changesWhenTitlecased, .changesWhenUppercased, .dash, .defaultIgnorableCodePoint,
  .deprecated, .diacritic, .emoji, .emojiComponent, .emojiModifier, .emojiModifierBase,
  .emojiPresentation, .extendedPictographic, .extender, .graphemeBase, .graphemeExtend,
  .graphemeLink, .hexDigit, .hyphen, .idsBinaryOperator, .idsTrinaryOperator,
  .idsUnaryOperator, .idCompatMathContinue, .idCompatMathStart, .idContinue, .idStart,
  .ideographic, .joinControl, .logicalOrderException, .lowercase, .math,
  .modifierCombiningMark, .noncharacterCodePoint, .otherAlphabetic,
  .otherDefaultIgnorableCodePoint, .otherGraphemeExtend, .otherIdContinue, .otherIdStart,
  .otherLowercase, .otherMath, .otherUppercase, .patternSyntax, .patternWhiteSpace,
  .prependedConcatenationMark, .quotationMark, .radical, .regionalIndicator, .sentenceTerminal,
  .softDotted, .terminalPunctuation, .unifiedIdeograph, .uppercase, .variationSelector,
  .whiteSpace, .xidContinue, .xidStart]

def names : BinaryProperty → List String
  | .asciiHexDigit => ["AHex", "ASCII_Hex_Digit"]
  | .alphabetic => ["Alpha", "Alphabetic"]
  | .bidiControl => ["Bidi_C", "Bidi_Control"]
  | .bidiMirrored => ["Bidi_M", "Bidi_Mirrored"]
  | .caseIgnorable => ["CI", "Case_Ignorable"]
  | .cased => ["Cased"]
  | .changesWhenCasefolded => ["CWCF", "Changes_When_Casefolded"]
  | .changesWhenCasemapped => ["CWCM", "Changes_When_Casemapped"]
  | .changesWhenLowercased => ["CWL", "Changes_When_Lowercased"]
  | .changesWhenTitlecased => ["CWT", "Changes_When_Titlecased"]
  | .changesWhenUppercased => ["CWU", "Changes_When_Uppercased"]
  | .dash => ["Dash"]
  | .defaultIgnorableCodePoint => ["DI", "Default_Ignorable_Code_Point"]
  | .deprecated => ["Dep", "Deprecated"]
  | .diacritic => ["Dia", "Diacritic"]
  | .emoji => ["Emoji"]
  | .emojiComponent => ["EComp", "Emoji_Component"]
  | .emojiModifier => ["EMod", "Emoji_Modifier"]
  | .emojiModifierBase => ["EBase", "Emoji_Modifier_Base"]
  | .emojiPresentation => ["EPres", "Emoji_Presentation"]
  | .extendedPictographic => ["ExtPict", "Extended_Pictographic"]
  | .extender => ["Ext", "Extender"]
  | .graphemeBase => ["Gr_Base", "Grapheme_Base"]
  | .graphemeExtend => ["Gr_Ext", "Grapheme_Extend"]
  | .graphemeLink => ["Gr_Link", "Grapheme_Link"]
  | .hexDigit => ["Hex", "Hex_Digit"]
  | .hyphen => ["Hyphen"]
  | .idsBinaryOperator => ["IDSB", "IDS_Binary_Operator"]
  | .idsTrinaryOperator => ["IDST", "IDS_Trinary_Operator"]
  | .idsUnaryOperator => ["IDSU", "IDS_Unary_Operator"]
  | .idCompatMathContinue => ["ID_Compat_Math_Continue"]
  | .idCompatMathStart => ["ID_Compat_Math_Start"]
  | .idContinue => ["IDC", "ID_Continue"]
  | .idStart => ["IDS", "ID_Start"]
  | .ideographic => ["Ideo", "Ideographic"]
  | .joinControl => ["Join_C", "Join_Control"]
  | .logicalOrderException => ["LOE", "Logical_Order_Exception"]
  | .lowercase => ["Lower", "Lowercase"]
  | .math => ["Math"]
  | .modifierCombiningMark => ["MCM", "Modifier_Combining_Mark"]
  | .noncharacterCodePoint => ["NChar", "Noncharacter_Code_Point"]
  | .otherAlphabetic => ["OAlpha", "Other_Alphabetic"]
  | .otherDefaultIgnorableCodePoint => ["ODI", "Other_Default_Ignorable_Code_Point"]
  | .otherGraphemeExtend => ["OGr_Ext", "Other_Grapheme_Extend"]
  | .otherIdContinue => ["OIDC", "Other_ID_Continue"]
  | .otherIdStart => ["OIDS", "Other_ID_Start"]
  | .otherLowercase => ["OLower", "Other_Lowercase"]
  | .otherMath => ["OMath", "Other_Math"]
  | .otherUppercase => ["OUpper", "Other_Uppercase"]
  | .patternSyntax => ["Pat_Syn", "Pattern_Syntax"]
  | .patternWhiteSpace => ["Pat_WS", "Pattern_White_Space"]
  | .prependedConcatenationMark => ["PCM", "Prepended_Concatenation_Mark"]
  | .quotationMark => ["QMark", "Quotation_Mark"]
  | .radical => ["Radical"]
  | .regionalIndicator => ["RI", "Regional_Indicator"]
  | .sentenceTerminal => ["STerm", "Sentence_Terminal"]
  | .softDotted => ["SD", "Soft_Dotted"]
  | .terminalPunctuation => ["Term", "Terminal_Punctuation"]
  | .unifiedIdeograph => ["UIdeo", "Unified_Ideograph"]
  | .uppercase => ["Upper", "Uppercase"]
  | .variationSelector => ["VS", "Variation_Selector"]
  | .whiteSpace => ["WSpace", "White_Space", "Space"]
  | .xidContinue => ["XIDC", "XID_Continue"]
  | .xidStart => ["XIDS", "XID_Start"]

def categories : BinaryProperty → List Category
  | .alphabetic => [.Lu, .Ll, .Lt, .Lm, .Lo, .Mc, .Nl]
  | .bidiMirrored => [.Ps, .Pe, .Pi, .Pf]
  | .caseIgnorable => [.Lm, .Mn, .Me, .Sk, .Cf]
  | .cased => [.Lu, .Ll, .Lt, .Lm]
  | .changesWhenCasefolded => [.Lu, .Lt]
  | .changesWhenCasemapped => [.Lu, .Ll, .Lt]
  | .changesWhenLowercased => [.Lu, .Lt]
  | .changesWhenTitlecased => [.Ll]
  | .changesWhenUppercased => [.Ll, .Lt]
  | .dash => [.Pd]
  | .diacritic => [.Lm, .Sk]
  | .graphemeBase => [
    .Lu, .Ll, .Lt, .Lm, .Lo, .Mc, .Nd, .Nl, .No, .Pc, .Pd, .Ps, .Pe, .Pi, .Pf, .Po, .Sm, .Sc,
    .Sk, .So, .Zs]
  | .graphemeExtend => [.Mn, .Me, .Cf]
  | .idContinue => [.Lu, .Ll, .Lt, .Lm, .Lo, .Mn, .Mc, .Nd, .Nl, .Pc]
  | .idStart => [.Lu, .Ll, .Lt, .Lm, .Lo, .Nl]
  | .lowercase => [.Ll, .Lm]
  | .math => [.Sm]
  | .patternWhiteSpace => [.Zl, .Zp]
  | .uppercase => [.Lu]
  | .whiteSpace => [.Zs, .Zl, .Zp]
  | .xidContinue => [.Lu, .Ll, .Lt, .Lm, .Lo, .Mn, .Mc, .Nd, .Nl, .Pc]
  | .xidStart => [.Lu, .Ll, .Lt, .Lm, .Lo, .Nl]
  | _ => []

end BinaryProperty

end MountSweep.Unicode
