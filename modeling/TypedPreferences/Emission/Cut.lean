import TypedPreferences.Source.Token

/-! Generated source cut into texts, one for every item and one for every member of an
implementation. -/

namespace TypedPreferences.Emission

open Source

/-- Whether a token ends an item: a semicolon or a group in braces. -/
def endsItem : Token → Bool
  | .punct ';' _ => true
  | .group .brace _ => true
  | _ => false

/-- Tokens cut after each token that ends an item; `current` is the item so far, last token first.
-/
def cutAfter (current : List Token) : List Token → List (List Token)
  | [] => if current.isEmpty then [] else [current.reverse]
  | t :: rest =>
    if endsItem t then (t :: current).reverse :: cutAfter [] rest else cutAfter (t :: current) rest

def cut (ts : List Token) : List (List Token) :=
  cutAfter [] ts

def cutText (ts : List Token) : String :=
  Token.spellAll (Token.partAnglesAll ts)

/-- The texts of an item: an implementation is opened out into its head, its members and its closing
brace. -/
def itemTexts (ts : List Token) : List String :=
  match ts.getLast? with
  | some (.group .brace body) =>
    if ts.any (·.isWord "impl") then
      [cutText ts.dropLast ++ " \x7b"] ++ (cut body).map cutText ++ ["\x7d"]
    else [cutText ts]
  | _ => [cutText ts]

def texts (ts : List Token) : List String :=
  (cut ts).flatMap itemTexts

end TypedPreferences.Emission
