namespace MountSweep.Unicode

/-- The part of a character in clusters of graphemes. -/
inductive GraphemeBreak
  | cr | lf | control | extend | zwj | regionalIndicator | prepend | spacingMark | l | v | t
  | lv | lvt
  deriving DecidableEq, Repr

def GraphemeBreak.names : GraphemeBreak → List String
  | .cr => ["CR"]
  | .lf => ["LF"]
  | .control => ["CN", "Control"]
  | .extend => ["EX", "Extend"]
  | .zwj => ["ZWJ"]
  | .regionalIndicator => ["RI", "Regional_Indicator"]
  | .prepend => ["PP", "Prepend"]
  | .spacingMark => ["SM", "SpacingMark"]
  | .l => ["L"]
  | .v => ["V"]
  | .t => ["T"]
  | .lv => ["LV"]
  | .lvt => ["LVT"]

def GraphemeBreak.all : List GraphemeBreak :=
  [.cr, .lf, .control, .extend, .zwj, .regionalIndicator, .prepend, .spacingMark, .l, .v, .t, .lv,
    .lvt]

inductive WordBreak
  | cr | lf | newline | extend | zwj | format | regionalIndicator | katakana | hebrewLetter
  | aLetter | singleQuote | doubleQuote | midNumLet | midLetter | midNum | numeric | extendNumLet
  | wSegSpace
  deriving DecidableEq, Repr

def WordBreak.names : WordBreak → List String
  | .cr => ["CR"]
  | .lf => ["LF"]
  | .newline => ["NL", "Newline"]
  | .extend => ["Extend"]
  | .zwj => ["ZWJ"]
  | .format => ["FO", "Format"]
  | .regionalIndicator => ["RI", "Regional_Indicator"]
  | .katakana => ["KA", "Katakana"]
  | .hebrewLetter => ["HL", "Hebrew_Letter"]
  | .aLetter => ["LE", "ALetter"]
  | .singleQuote => ["SQ", "Single_Quote"]
  | .doubleQuote => ["DQ", "Double_Quote"]
  | .midNumLet => ["MB", "MidNumLet"]
  | .midLetter => ["ML", "MidLetter"]
  | .midNum => ["MN", "MidNum"]
  | .numeric => ["NU", "Numeric"]
  | .extendNumLet => ["EX", "ExtendNumLet"]
  | .wSegSpace => ["WSegSpace"]

def WordBreak.all : List WordBreak :=
  [.cr, .lf, .newline, .extend, .zwj, .format, .regionalIndicator, .katakana, .hebrewLetter,
    .aLetter, .singleQuote, .doubleQuote, .midNumLet, .midLetter, .midNum, .numeric, .extendNumLet,
    .wSegSpace]

inductive SentenceBreak
  | cr | lf | sep | extend | format | sp | lower | upper | oLetter | numeric | aTerm | sContinue
  | sTerm | close
  deriving DecidableEq, Repr

def SentenceBreak.names : SentenceBreak → List String
  | .cr => ["CR"]
  | .lf => ["LF"]
  | .sep => ["SE", "Sep"]
  | .extend => ["EX", "Extend"]
  | .format => ["FO", "Format"]
  | .sp => ["SP", "Sp"]
  | .lower => ["LO", "Lower"]
  | .upper => ["UP", "Upper"]
  | .oLetter => ["LE", "OLetter"]
  | .numeric => ["NU", "Numeric"]
  | .aTerm => ["AT", "ATerm"]
  | .sContinue => ["SC", "SContinue"]
  | .sTerm => ["ST", "STerm"]
  | .close => ["CL", "Close"]

def SentenceBreak.all : List SentenceBreak :=
  [.cr, .lf, .sep, .extend, .format, .sp, .lower, .upper, .oLetter, .numeric, .aTerm, .sContinue,
    .sTerm, .close]

end MountSweep.Unicode
