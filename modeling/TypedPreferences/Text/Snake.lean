import TypedPreferences.Text.Case

/-! Names in lower case with low lines where a word begins. -/

namespace TypedPreferences.Text

/-- Whether a low line comes before an upper-case character: it begins a word after a character that
is neither upper-case nor a low line, or it is the last of a run of upper-case characters and a
lower-case one follows. -/
def beginsWord (before next : Option Char) : Bool :=
  match before with
  | none => false
  | some b => if isUpper b then next.any isLower else b != '_'

def snakeAfter (before : Option Char) : List Char → List Char
  | [] => []
  | c :: cs =>
    if isUpper c then
      (if beginsWord before cs.head? then ['_'] else []) ++ toLower c ++ snakeAfter (some c) cs
    else c :: snakeAfter (some c) cs

def snake (name : String) : String :=
  String.ofList (snakeAfter none name.toList)

end TypedPreferences.Text
