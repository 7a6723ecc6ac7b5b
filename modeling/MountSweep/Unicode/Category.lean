namespace MountSweep.Unicode

inductive Category
  | Lu | Ll | Lt | Lm | Lo | Mn | Mc | Me | Nd | Nl | No | Pc | Pd | Ps | Pe | Pi | Pf | Po
  | Sm | Sc | Sk | So | Zs | Zl | Zp | Cc | Cf | Cs | Co | Cn
  deriving DecidableEq, Repr

namespace Category

/-- The names of sets of categories. Surrogates are no characters, so they have none. -/
def named : List (List String × List Category) := [
  (["Lu", "Uppercase_Letter"], [Lu]),
  (["Ll", "Lowercase_Letter"], [Ll]),
  (["Lt", "Titlecase_Letter"], [Lt]),
  (["LC", "Cased_Letter"], [Lu, Ll, Lt]),
  (["Lm", "Modifier_Letter"], [Lm]),
  (["Lo", "Other_Letter"], [Lo]),
  (["L", "Letter"], [Lu, Ll, Lt, Lm, Lo]),
  (["Mn", "Nonspacing_Mark"], [Mn]),
  (["Mc", "Spacing_Mark"], [Mc]),
  (["Me", "Enclosing_Mark"], [Me]),
  (["M", "Mark", "Combining_Mark"], [Mn, Mc, Me]),
  (["Nd", "Decimal_Number", "digit"], [Nd]),
  (["Nl", "Letter_Number"], [Nl]),
  (["No", "Other_Number"], [No]),
  (["N", "Number"], [Nd, Nl, No]),
  (["Pc", "Connector_Punctuation"], [Pc]),
  (["Pd", "Dash_Punctuation"], [Pd]),
  (["Ps", "Open_Punctuation"], [Ps]),
  (["Pe", "Close_Punctuation"], [Pe]),
  (["Pi", "Initial_Punctuation"], [Pi]),
  (["Pf", "Final_Punctuation"], [Pf]),
  (["Po", "Other_Punctuation"], [Po]),
  (["P", "Punctuation", "punct"], [Pc, Pd, Ps, Pe, Pi, Pf, Po]),
  (["Sm", "Math_Symbol"], [Sm]),
  (["Sc", "Currency_Symbol"], [Sc]),
  (["Sk", "Modifier_Symbol"], [Sk]),
  (["So", "Other_Symbol"], [So]),
  (["S", "Symbol"], [Sm, Sc, Sk, So]),
  (["Zs", "Space_Separator"], [Zs]),
  (["Zl", "Line_Separator"], [Zl]),
  (["Zp", "Paragraph_Separator"], [Zp]),
  (["Z", "Separator"], [Zs, Zl, Zp]),
  (["Cc", "Control", "cntrl"], [Cc]),
  (["Cf", "Format"], [Cf]),
  (["Co", "Private_Use"], [Co]),
  (["Cn", "Unassigned"], [Cn]),
  (["C", "Other"], [Cc, Cf, Cs, Co, Cn]),
  (["Assigned"], [Lu, Ll, Lt, Lm, Lo, Mn, Mc, Me, Nd, Nl, No, Pc, Pd, Ps, Pe, Pi, Pf, Po,
    Sm, Sc, Sk, So, Zs, Zl, Zp, Cc, Cf, Cs, Co])]

end Category

end MountSweep.Unicode
