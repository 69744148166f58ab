import TypedPreferences.Source.Grammar.Declaration
import TypedPreferences.Source.Lexer

/-! From text or tokens to types, paths, names and items. -/

namespace TypedPreferences.Source

/-- Readers for all phrases; the number bounds how deep phrases stand in each other. -/
def rules : Nat → Rules
  | 0, _, _ => failure
  | depth + 1, _, phrase =>
    match phrase with
    | .type plus => Grammar.typeBody (rules depth) plus
    | .expr structs => Grammar.exprBody (rules depth) structs
    | .operand structs => Grammar.operandBody (rules depth) structs
    | .operation structs left least => Grammar.operationBody (rules depth) structs left least
    | .standing => Grammar.standingBody (rules depth)
    | .conditional => Grammar.conditionalBody (rules depth)
    | .pattern => Grammar.patternBody (rules depth)
    | .block attributes => Grammar.blockBody (rules depth) attributes
    | .imports rooted => Grammar.importsBody (rules depth) rooted
    | .item => Grammar.itemBody (rules depth)

/-- A depth that no reading of the tokens reaches: no phrase goes more than a few levels down
without taking a token. -/
def depthFor (ts : List Token) : Nat :=
  8 * Token.weightAll ts + 64

def parse? {α : Type} (reader : Rules → Reader α) (ts : List Token) : Option α :=
  Reader.readAll? (reader (rules (depthFor ts))) ts

def typeOf? (text : String) : Option Ty := do
  parse? (·.type) (← tokens? text)

def readPath (r : Rules) : Reader NamePath := do
  return (← Grammar.path r (Grammar.bound r) false).named

def pathOf? (text : String) : Option NamePath := do
  parse? readPath (← tokens? text)

def nameOf? (text : String) : Option String := do
  parse? (fun _ => Reader.name) (← tokens? text)

def readItems (r : Rules) : Reader (List Item) := do
  let _ ← Grammar.innerAttributes r
  Reader.whileLooks (!·.isEmpty) r.item

def afterBlanks (cs : List Char) : List Char :=
  go cs.length cs
where
  -- Drops one blank or comment after the other.
  go : Nat → List Char → List Char
    | 0, cs => cs
    | n + 1, cs => if Lexeme.skipped cs = 0 then cs else go n (cs.drop (Lexeme.skipped cs))

/-- A source without its first line, when that line names an interpreter: it begins with `#!` and no
attribute follows. -/
def withoutInterpreterLine (cs : List Char) : List Char :=
  match cs with
  | '#' :: '!' :: rest =>
    if (afterBlanks rest).head? == some '[' then cs else cs.dropWhile (· != '\n')
  | _ => cs

def itemsOf? (text : String) : Option (List Item) := do
  let cs := text.toList
  let cs := if cs.head? == some '\ufeff' then cs.drop 1 else cs
  parse? readItems (← tokens? (String.ofList (withoutInterpreterLine cs)))

/-- The items of a text that is given by its characters. -/
def itemsIn? (cs : List Char) : Option (List Item) := do
  let cs := if cs.head? == some '\ufeff' then cs.drop 1 else cs
  parse? readItems (← tokensIn? (withoutInterpreterLine cs))

theorem itemsOf?_ofList (cs : List Char) : itemsOf? (String.ofList cs) = itemsIn? cs := by
  unfold itemsOf? itemsIn?
  rw [String.toList_ofList]
  simp only [tokens?_ofList]

def itemOf? (ts : List Token) : Option Item :=
  parse? (·.item) ts

def readDefinition (r : Rules) : Reader Item := do
  let ((attributes, kind), spelled) ← Reader.noting do
    let attributes ← Grammar.outerAttributes r
    let _ ← Grammar.visibility
    let ts ← Reader.rest
    let kind ←
      if atWord "struct" ts then Grammar.record r
      else if atWord "enum" ts then Grammar.enumeration r
      else Grammar.overlay r
    return (attributes, kind)
  return .mk attributes kind spelled

def definitionOf? (ts : List Token) : Option Item :=
  parse? readDefinition ts

end TypedPreferences.Source
