import TypedPreferences.Source.Grammar.Expression

/-! Statements and blocks. -/

namespace TypedPreferences.Source.Grammar

open Reader

def atItem (ts : List Token) : Bool :=
  let next := tail ts
  let third := tail next
  ["pub", "extern", "use", "fn", "mod", "type", "struct", "enum", "trait", "impl", "macro"].any
    (atWord · ts) ||
    (atWord "crate" ts && !atMark "::" next) ||
    (atWord "static" ts && (atWord "mut" next || atName next)) ||
    (atWord "const" ts &&
      !(atGroup .brace next || atWord "static" next || atWord "move" next || atMark "|" next ||
        (atWord "async" next &&
          !(atWord "unsafe" third || atWord "extern" third || atWord "fn" third)))) ||
    (atWord "unsafe" ts && !atGroup .brace next) ||
    (atWord "async" ts && (atWord "unsafe" next || atWord "extern" next || atWord "fn" next)) ||
    (atWord "union" ts && atName next) || (atWord "auto" ts && atWord "trait" next) ||
    (atWord "default" ts && (atWord "unsafe" next || atWord "impl" next))

inductive StatementKind where
  | binding
  | item
  | ruleCall
  | expression

def ruleCallKind : Reader StatementKind := do
  let _ ← modPath
  mark "!"
  let ts ← rest
  if atName ts || atWord "try" ts then return .item
  else if atGroup .brace ts && !atTrailer (tail ts) then return .ruleCall
  else return .expression

def statementKind : Reader StatementKind := do
  let ts ← rest
  match ← ahead? ruleCallKind with
  | some .ruleCall => return .ruleCall
  | call =>
    if atWord "let" ts then return .binding
    else if atItem ts then return .item
    else return call.getD .expression

/-- A binding, with a block for the case that the pattern does not match or without. -/
def letStatement (r : Rules) : Reader Unit := do
  word "let"
  let _ ← r.pattern
  if ← mark? ":" then
    let _ ← r.type
  if ← mark? "=" then
    let (_, spelled) ← noting r.expr
    if !(spelled.getLast?.any fun t => atGroup .brace [t]) && (← looks (atWord "else")) then
      word "else"
      r.block false
  mark ";"

/-- A statement. An expression without a semicolon stands last, unless it ends on its own. -/
def statement (r : Rules) : Reader Unit := do
  let kind? ← ahead? do
    let _ ← outerAttributes r
    statementKind
  match kind? with
  | none => failure
  | some .item =>
    let _ ← r.item
  | some .binding =>
    let _ ← outerAttributes r
    letStatement r
  | some .ruleCall =>
    let _ ← outerAttributes r
    let _ ← modPath
    mark "!"
    let _ ← rawGroup
    let _ ← mark? ";"
  | some .expression =>
    let form ← afterAttributes r r.standing
    if !(← mark? ";") then require (form.blockLike || form.braceCall || (← atEnd))

def statements (r : Rules) : Reader Unit := do
  let _ ← repeated do
    if ← mark? ";" then return some ()
    if ← atEnd then return none
    statement r
    return some ()

def blockBody (r : Rules) (attributes : Bool) : Reader Unit :=
  inside .brace do
    if attributes then
      let _ ← innerAttributes r
    statements r

end TypedPreferences.Source.Grammar
