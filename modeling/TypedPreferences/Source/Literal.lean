import TypedPreferences.Source.Token
import TypedPreferences.Text.Quoted

/-! What text literals stand for. -/

namespace TypedPreferences.Source

/-- The text between the quotes of a raw literal: the same number of hashes stands on both sides,
and the suffix holds no quote. -/
def rawValue (cs : List Char) : List Char :=
  ((cs.dropWhile (· == '#')).drop 1).reverse.dropWhile (· != '"') |>.drop 1 |>.reverse

def textValue? (literal : String) : Option String :=
  match literal.toList with
  | '"' :: rest => (Text.Quoted.valueFrom? .text .plain rest).map String.ofList
  | 'r' :: rest => some (String.ofList (rawValue rest))
  | _ => none

end TypedPreferences.Source
