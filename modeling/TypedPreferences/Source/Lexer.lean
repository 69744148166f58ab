import TypedPreferences.Source.Lexeme
import TypedPreferences.Source.Token

/-! From text to tokens. A text has tokens when every bracket is closed by its partner and every
other part is a lexeme. -/

namespace TypedPreferences.Source

open Lexeme

/-- A lexeme other than a bracket: its token and its length. A quote is the mark of a lifetime when
a name follows that no second quote ends. -/
def leaf? (cs : List Char) : Option (Token × Nat) :=
  match literal? cs with
  | some n => some (.literal (String.ofList (cs.take n)), n)
  | none =>
    match mark? cs with
    | some '\'' => do
      let rest := cs.drop 1
      let n ← name? rest
      let after := (rest.drop n).head?
      guard (after != some '\'' && !(after == some '#' && !startsWith "r#" rest))
      some (.punct '\'' true, 1)
    | some c => some (.punct c (mark? (cs.drop 1)).isSome, 1)
    | none =>
      if startsWith failedExpansion cs then
        some (.literal failedExpansion, failedExpansion.length)
      else (ident? cs).map fun n => (.ident (String.ofList (cs.take n)), n)

/-- The tokens of a documentation comment: an attribute that holds its text. -/
def docTokens (doc : DocComment) : List Token :=
  .punct '#' false :: (if doc.inner then [Token.punct '!' false] else []) ++
    [.group .bracket [.ident "doc", .punct '=' false,
      .literal (Text.Quoted.encode (String.ofList doc.text))]]

def opened? : Char → Option Delimiter
  | '(' => some .paren
  | '[' => some .bracket
  | '\x7b' => some .brace
  | _ => none

def closed? : Char → Option Delimiter
  | ')' => some .paren
  | ']' => some .bracket
  | '\x7d' => some .brace
  | _ => none

/-- The state of a lexer inside brackets: the tokens read so far in the innermost group, last first,
and the enclosing groups. -/
structure Lexing where
  current : List Token
  enclosing : List (Delimiter × List Token)

def Lexing.push (s : Lexing) (ts : List Token) : Lexing :=
  { s with current := ts.reverse ++ s.current }

/-- What the front of a text holds: the state after it and its length, at least one. -/
def Lexing.step? (s : Lexing) (c : Char) (cs : List Char) : Option (Lexing × Nat) :=
  match skipped cs with
  | n + 1 => some (s, n + 1)
  | 0 =>
    match docComment? cs with
    | some doc => some (s.push (docTokens doc), doc.length)
    | none =>
      match if startsWith failedExpansion cs then none else opened? c with
      | some d => some (⟨[], (d, s.current) :: s.enclosing⟩, 1)
      | none =>
        match closed? c, s.enclosing with
        | some d, (d', outer) :: enclosing =>
          if d = d' then some (⟨.group d s.current.reverse :: outer, enclosing⟩, 1) else none
        | some _, [] => none
        | none, _ => (leaf? cs).map fun (t, n) => (s.push [t], n)

/-- Reads lexemes until the text ends; `fuel` bounds their number. -/
def lexFrom (fuel : Nat) (s : Lexing) (cs : List Char) : Option (List Token) :=
  match fuel, cs with
  | _, [] => if s.enclosing.isEmpty then some s.current.reverse else none
  | 0, _ => none
  | fuel + 1, c :: rest =>
    match s.step? c (c :: rest) with
    | some (s', n) => lexFrom fuel s' ((c :: rest).drop n)
    | none => none

/-- The tokens of a text, after a byte-order mark; `none` when the text has none. -/
def tokens? (text : String) : Option (List Token) :=
  let cs := text.toList
  let cs := if cs.head? == some '\ufeff' then cs.drop 1 else cs
  lexFrom cs.length ⟨[], []⟩ cs

/-- The tokens of a text that is given by its characters. -/
def tokensIn? (cs : List Char) : Option (List Token) :=
  let cs := if cs.head? == some '\ufeff' then cs.drop 1 else cs
  lexFrom cs.length ⟨[], []⟩ cs

-- A text that is written out is its characters by unification, so that it is not decoded again for
-- each of them when its tokens are evaluated.
theorem tokens?_ofList (cs : List Char) : tokens? (String.ofList cs) = tokensIn? cs := by
  rw [tokens?, String.toList_ofList]
  rfl

end TypedPreferences.Source
