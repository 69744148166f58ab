/-! Tokens of a declaration source: names, single punctuation marks, literals and bracketed groups,
and their spelling. -/

namespace TypedPreferences.Source

inductive Delimiter where
  | paren
  | bracket
  | brace
deriving DecidableEq, Repr, Inhabited

namespace Delimiter

/-- The opening bracket as it is spelled; an opening brace stands off from what follows. -/
def opening : Delimiter → String
  | paren => "("
  | bracket => "["
  | brace => "\x7b "

def closing (emptyBody : Bool) : Delimiter → String
  | paren => ")"
  | bracket => "]"
  | brace => if emptyBody then "\x7d" else " \x7d"

end Delimiter

/-- A token. A punctuation mark is joint when the mark after it belongs to the same operator. -/
inductive Token where
  | ident (text : String)
  | punct (mark : Char) (joint : Bool)
  | literal (text : String)
  | group (delimiter : Delimiter) (body : List Token)
deriving Repr, Inhabited

namespace Token

def isJoint : Token → Bool
  | punct _ joint => joint
  | _ => false

def isMark (c : Char) : Token → Bool
  | punct mark _ => mark == c
  | _ => false

def isWord (word : String) : Token → Bool
  | ident text => text == word
  | _ => false

mutual

def spell : Token → String
  | ident text => text
  | punct mark _ => mark.toString
  | literal text => text
  | group delimiter body => delimiter.opening ++ spellAll body ++ delimiter.closing body.isEmpty

/-- The spelling of a sequence of tokens: one blank between two of them, none after a joint mark. -/
def spellAll : List Token → String
  | [] => ""
  | [t] => spell t
  | t :: u :: rest => spell t ++ (if t.isJoint then "" else " ") ++ spellAll (u :: rest)

end

mutual

def weight : Token → Nat
  | group _ body => weightAll body + 1
  | _ => 1

def weightAll : List Token → Nat
  | [] => 0
  | t :: rest => weight t + weightAll rest

end

mutual

def partAngles : Token → Token
  | group delimiter body => group delimiter (partAnglesAll body)
  | t => t

def partAnglesAll : List Token → List Token
  | [] => []
  | [t] => [partAngles t]
  | t :: u :: rest =>
    (if t.isMark '>' && u.isMark '>' then punct '>' false else partAngles t) ::
      partAnglesAll (u :: rest)

end

def operatorOf : List Char → List Token
  | [] => []
  | [c] => [punct c false]
  | c :: rest => punct c true :: operatorOf rest

def operator (text : String) : List Token :=
  operatorOf text.toList

def lifetime (name : String) : List Token :=
  [punct '\'' true, ident name]

def parens (body : List Token) : List Token := [group .paren body]

def brackets (body : List Token) : List Token := [group .bracket body]

def braces (body : List Token) : List Token := [group .brace body]

/-- The tokens of a word of a template: a number, a lifetime, a name or an operator. -/
def ofWord (word : String) : List Token :=
  match word.toList with
  | [] => []
  | '\'' :: name => lifetime (String.ofList name)
  | c :: rest =>
    if c.isDigit then [literal word]
    else if c.isAlpha || c == '_' then [ident word]
    else operatorOf (c :: rest)

def words (text : String) : List Token :=
  (text.splitOn " ").flatMap ofWord

end Token

end TypedPreferences.Source
