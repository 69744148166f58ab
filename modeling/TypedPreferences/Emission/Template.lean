import TypedPreferences.Source.Lexer

/-! Templates of source text: a text with holes, each a dollar sign and a name, that are filled with
tokens. -/

namespace TypedPreferences.Emission

open Source

abbrev Holes := List (String × List Token)

def isPair (c d : Char) : Bool :=
  [(':', ':'), ('-', '>'), ('=', '>')].contains (c, d)

mutual

def fillToken (holes : Holes) : Token → Token
  | .group d body => .group d (fillTokens holes body)
  | t => t

/-- Fills the holes in tokens. Only the marks of one operator and those of lifetimes are joint. -/
def fillTokens (holes : Holes) : List Token → List Token
  | .punct '$' _ :: .ident name :: rest => ((holes.lookup name).getD []) ++ fillTokens holes rest
  | .punct '\'' joint :: rest => .punct '\'' joint :: fillTokens holes rest
  | .punct c true :: .punct d joint :: rest =>
    if isPair c d then .punct c true :: .punct d false :: fillTokens holes rest
    else .punct c false :: fillTokens holes (.punct d joint :: rest)
  | .punct c _ :: rest => .punct c false :: fillTokens holes rest
  | t :: rest => fillToken holes t :: fillTokens holes rest
  | [] => []

end

def fill (holes : Holes) (template : String) : List Token :=
  fillTokens holes ((tokens? template).getD [])

end TypedPreferences.Emission
