import TypedPreferences.Source.Grammar.Pattern

/-! Expressions: operators by precedence, operands with what follows them, and the forms that begin
with a word or a bracket. -/

namespace TypedPreferences.Source.Grammar

open Reader

/-! Levels of precedence, the loosest first. -/

def assignmentLevel : Nat := 1
def rangeLevel : Nat := 2
def comparisonLevel : Nat := 6
def castLevel : Nat := 13

/-- The operators with two operands and their levels; of two that begin alike the longer one is
first. -/
def operators : List (String × Nat) :=
  ["+=", "-=", "*=", "/=", "%=", "^=", "&=", "|=", "<<=", ">>="].map (·, assignmentLevel) ++
    [("&&", 4), ("||", 3), ("<<", 10), (">>", 10)] ++
    ["==", "<=", "!=", ">="].map (·, comparisonLevel) ++
    [("+", 11), ("-", 11), ("*", 12), ("/", 12), ("%", 12), ("^", 8), ("&", 9), ("|", 7),
      ("<", comparisonLevel), (">", comparisonLevel)]

def operatorAhead (ts : List Token) : Option (String × Nat) :=
  operators.find? fun (op, _) => atMark op ts

/-- The level of what tokens go on with; zero when they do not go on. -/
def levelAhead (ts : List Token) : Nat :=
  match operatorAhead ts with
  | some (_, level) => level
  | none =>
    if atMark "=" ts && !atMark "=>" ts then assignmentLevel
    else if atMark ".." ts then rangeLevel
    else if atWord "as" ts then castLevel
    else 0

/-- Further operations on a right operand that bind closer than a level, or as close when it is the
level of assignment. -/
def closerOperations (fuel : Nat) (r : Rules) (structs : Bool) (level : Nat) (form : ExprForm) :
    Reader Unit :=
  match fuel with
  | 0 => pure ()
  | fuel + 1 => do
    let ts ← rest
    let next := levelAhead ts
    if next > level || (next == level && level == assignmentLevel) then
      let form ← r.operation structs form next
      if (← rest).length < ts.length then closerOperations fuel r structs level form

def rightOperand (r : Rules) (structs : Bool) (level : Nat) : Reader Unit := do
  let form ← r.operand structs
  closerOperations ((← rest).length + 1) r structs level form

def atRangeStop (structs : Bool) (ts : List Token) : Bool :=
  ts.isEmpty || (atMark "." ts && !atMark ".." ts) || (!structs && atGroup .brace ts) ||
    atWord "as" ts ||
    [",", ";", "?", "=>", "=", "+", "/", "%", "^", ">", "<=", "!=", "-=", "*=", "&=", "|=",
      "<<="].any (atMark · ts)

def rangeRest (r : Rules) (structs : Bool) : Reader Unit := do
  let closed ← rangeLimits false
  if closed || !(← looks (atRangeStop structs)) then rightOperand r structs rangeLevel

def atCastMisuse (ts : List Token) : Bool :=
  (atMark "." ts && !atMark ".." ts) || atMark "?" ts || atGroup .bracket ts || atGroup .paren ts

/-- What follows a left operand, down to a least level. A range takes no operator, and comparisons
are not chained. The first operand of all but a range remains the first one. -/
def operationBody (r : Rules) (structs : Bool) (left : ExprForm) (least : Nat) :
    Reader ExprForm := do
  let ts ← rest
  if left.range then return left
  match operatorAhead ts with
  | some (op, level) =>
    if level < least then return left
    require (!(level == comparisonLevel && left.comparison))
    mark op
    rightOperand r structs level
    r.operation structs { comparison := level == comparisonLevel, rawHead := left.rawHead } least
  | none =>
    if assignmentLevel ≥ least && atMark "=" ts && !atMark "==" ts && !atMark "=>" ts then
      mark "="
      rightOperand r structs assignmentLevel
      r.operation structs { rawHead := left.rawHead } least
    else if rangeLevel ≥ least && atMark ".." ts then
      rangeRest r structs
      r.operation structs { range := true } least
    else if castLevel ≥ least && atWord "as" ts then
      word "as"
      let _ ← r.type false
      require (!(← looks atCastMisuse))
      r.operation structs { rawHead := left.rawHead } least
    else
      return left

def atExpr (ts : List Token) : Bool :=
  (atAnyWord ts && !atWord "as" ts) || atGroup .paren ts || atGroup .bracket ts ||
    atGroup .brace ts || atLiteral ts ||
    (atMark "!" ts && !atMark "!=" ts) || (atMark "-" ts && !atMark "-=" ts && !atMark "->" ts) ||
      (atMark "*" ts && !atMark "*=" ts) ||
    (atMark "|" ts && !atMark "|=" ts) || (atMark "&" ts && !atMark "&=" ts) || atMark ".." ts ||
    (atMark "<" ts && !atMark "<=" ts && !atMark "<<=" ts) || atMark "::" ts || atLifetime ts ||
      atMark "#" ts

def atClosureBinder (ts : List Token) : Bool :=
  atWord "for" ts && atGenerics (tail ts)

def atClosure (ts : List Token) : Bool :=
  let next := tail ts
  atMark "|" ts || atWord "move" ts || atClosureBinder ts ||
    (atWord "const" ts && !atGroup .brace next) || atWord "static" ts ||
    (atWord "async" ts && (atMark "|" next || atWord "move" next))

/-- A parameter of a closure. Attributes are dropped before a pattern without a type that is kept as
it stands. -/
def closureParam (r : Rules) : Reader Unit := do
  let (_, attributes) ← capture (outerAttributes r)
  let ((form, typed), spelled) ← capture do
    let form ← r.pattern
    let typed ← mark? ":"
    if typed then
      let _ ← r.type
    return (form, typed)
  write (if form.asItStands && !typed then spelled else attributes ++ spelled)

def closure (r : Rules) (structs : Bool) : Reader Unit := do
  if ← looks (atWord "for") then binder r (bound r)
  let _ ← word? "const"
  let _ ← word? "static"
  let _ ← word? "async"
  let _ ← word? "move"
  mark "|"
  let _ ← separated (atMark "|") "," (closureParam r)
  mark "|"
  if ← looks (atMark "->") then
    let _ ← result? r true
    r.block false
  else
    let _ ← r.expr structs

/-- The value of a field in a structure literal; a name alone stands for itself. -/
def fieldValue (r : Rules) : Reader Unit := do
  let _ ← outerAttributes r
  let named ← fieldKey
  if !named || (← looks (atMark ":")) then
    mark ":"
    let _ ← r.expr

/-- The fields of a structure literal; two dots and the rest end them. -/
def fieldValues (r : Rules) : Reader Unit := do
  let _ ← commaSeparated do
    if ← mark? ".." then
      if !(← atEnd) then
        let _ ← r.expr
      require (← atEnd)
    else
      fieldValue r

def pathExpr (r : Rules) (structs : Bool) : Reader ExprForm := do
  let found ← qualifiedPath r (bound r) true
  let modStyle :=
    match found with
    | .inl _ => false
    | .inr p => p.named.isModStyle
  let ts ← rest
  if modStyle && atMark "!" ts && !atMark "!=" ts then
    mark "!"
    return { braceCall := (← rawGroup) == .brace }
  if structs && atGroup .brace ts then inside .brace (fieldValues r)
  return {}

def elements (r : Rules) : Reader Unit := do
  if ← atEnd then return
  let _ ← r.expr
  if ← mark? ";" then
    let _ ← r.expr
  else if !(← atEnd) then
    mark ","
    let _ ← commaSeparated r.expr

/-- A condition: it is followed by a block, so it does not begin with a structure literal. -/
def condition (r : Rules) : Reader Unit := do
  let _ ← r.expr false

def conditionalBody (r : Rules) : Reader Unit := do
  word "if"
  condition r
  r.block false
  if ← word? "else" then
    if ← looks (atWord "if") then r.conditional else r.block false

def loop (r : Rules) : Reader Unit := do
  if ← word? "while" then condition r
  else if ← word? "for" then
    alternatives r
    word "in"
    condition r
  else
    word "loop"
  r.block

def arm (r : Rules) : Reader Unit := do
  let _ ← outerAttributes r
  alternatives r
  if ← word? "if" then
    let _ ← r.expr
  mark "=>"
  let form ← r.standing
  if form.blockLike || (← atEnd) then
    let _ ← mark? ","
  else
    mark ","

def cases (r : Rules) : Reader Unit := do
  word "match"
  condition r
  inside .brace do
    let _ ← innerAttributes r
    let _ ← whileLooks (!·.isEmpty) (arm r)

def labelled (r : Rules) : Reader Unit := do
  let _ ← lifetime
  mark ":"
  if ← looks (atGroup .brace) then r.block else loop r

def blockForm (r : Rules) : Reader Bool := do
  let ts ← rest
  let next := tail ts
  if atWord "if" ts then r.conditional
  else if atWord "while" ts || (atWord "for" ts && !atClosureBinder ts) || atWord "loop" ts then
    loop r
  else if atWord "match" ts then cases r
  else if atWord "try" ts && atGroup .brace next then
    word "try"
    r.block false
  else if atWord "unsafe" ts then
    word "unsafe"
    r.block
  else if atWord "const" ts && atGroup .brace next then constantBlock r
  else if atGroup .brace ts then r.block
  else if atLifetime ts then labelled r
  else
    return false
  return true

/-- The positions in a number with points: `a.0.1` names two fields. Whether a point is left at its
end. -/
def positions (text : String) : Reader Bool := do
  let parts := text.splitOn "."
  let trailing := parts.getLast? == some ""
  let parts := if trailing then parts.dropLast else parts
  let numbers ← parts.mapM fun part =>
    match wholeNumber? part with
    | some n => if n < UInt32.size then pure n else failure
    | none => failure
  write ((numbers.map fun n => Token.literal (toString n)).intersperse (.punct '.' false))
  return trailing

/-- What follows a point: a field, a call of a method, or the word that waits. -/
def member (r : Rules) : Reader Unit := do
  mark "."
  let ended ←
    match ← rest with
    | .literal text :: ts =>
      -- Two positions with the point between them are one number to the lexer.
      if isNumber text && text.toList.contains '.' then
        moveTo ts
        let trailing ← positions text
        if trailing then write [.punct '.' false]
        pure (!trailing)
      else pure false
    | _ => pure false
  if ended then return
  if ← word? "await" then return
  let named ← fieldKey
  let hasArgs ←
    if named && (← looks (atMark "::")) then
      mark "::"
      let _ ← angledArgs r (bound r)
      pure true
    else pure false
  if hasArgs || (named && (← looks (atGroup .paren))) then
    let _ ← inside .paren (commaSeparated r.expr)

/-- What follows an operand: arguments, fields, an index or a question mark. A range has only
arguments and an index. The operand is then a part of another one. -/
def trailersFrom (fuel : Nat) (r : Rules) (form : ExprForm) : Reader ExprForm :=
  match fuel with
  | 0 => failure
  | fuel + 1 => do
    let ts ← rest
    if atGroup .paren ts then
      let _ ← inside .paren (commaSeparated r.expr)
      trailersFrom fuel r {}
    else if atMark "." ts && !atMark ".." ts && !form.range then
      member r
      trailersFrom fuel r {}
    else if atGroup .bracket ts then
      let _ ← inside .bracket r.expr
      trailersFrom fuel r {}
    else if atMark "?" ts && !form.range then
      mark "?"
      trailersFrom fuel r {}
    else
      return form

def trailers (r : Rules) (form : ExprForm) : Reader ExprForm := do
  trailersFrom ((← rest).length + 1) r form

/-- Reads the first operand of an expression, or all of it, after attributes. They belong to that
operand, and are dropped when it is kept as it stands. -/
def afterAttributes (r : Rules) (p : Reader ExprForm) : Reader ExprForm := do
  let (_, attributes) ← capture (outerAttributes r)
  let (form, spelled) ← capture p
  write (if form.rawHead then spelled else attributes ++ spelled)
  return form

def atTrailer (ts : List Token) : Bool :=
  (atMark "." ts && !atMark ".." ts) || atMark "?" ts

/-- The first operand of an expression that stands as a statement or as the body of an arm. One that
begins with a block ends with it, unless a field, a call or a question mark follows. -/
def standingHead (r : Rules) : Reader ExprForm := do
  if ← blockForm r then
    let form : ExprForm := { blockLike := true }
    if ← looks atTrailer then trailers r form else return form
  else
    return { ← r.operand true with blockLike := false }

def standingBody (r : Rules) : Reader ExprForm := do
  let head ← afterAttributes r (standingHead r)
  if head.blockLike then return head else r.operation true head 0

def leaving (r : Rules) (structs : Bool) : Reader Unit := do
  if ← word? "break" then
    if ← looks atLifetime then
      let _ ← lifetime
      require (!(← looks (atMark ":")))
    if ← looks fun ts => atExpr ts && (structs || !atGroup .brace ts) then
      let _ ← r.expr
  else if ← word? "continue" then
    if ← looks atLifetime then
      let _ ← lifetime
  else
    let _ ← anyWord
    if ← looks atExpr then
      let _ ← r.expr

def bindingCondition (r : Rules) (structs : Bool) : Reader Unit := do
  word "let"
  alternatives r
  mark "="
  let form ← r.operand structs
  let _ ← r.operation structs form comparisonLevel

def atom (r : Rules) (structs : Bool) : Reader ExprForm := do
  let ts ← rest
  let next := tail ts
  if atLiteral ts then
    literal
    return {}
  else if atWord "async" ts &&
    (atGroup .brace next || (atWord "move" next && atGroup .brace (tail next))) then
    -- Without a block behind it, the word begins a closure, which is tried below.
    word "async"
    let _ ← word? "move"
    r.block false
    return {}
  else if atWord "try" ts && atGroup .brace next then
    let _ ← blockForm r
    return { blockLike := true }
  else if atClosure ts then
    closure r structs
    return {}
  else if atBuiltin ts then
    verbatim builtin
    return { rawHead := true }
  else if atPathWord ts || atMark "::" ts || atMark "<" ts ||
    (atWord "try" ts && (atMark "!" next || atMark "::" next)) then
    pathExpr r structs
  else if atGroup .paren ts then
    let _ ← inside .paren (commaSeparated r.expr)
    return {}
  else if atWord "become" ts then
    verbatim do
      word "become"
      let _ ← r.expr
    return { rawHead := true }
  else if ["break", "continue", "return", "yield"].any (atWord · ts) then
    leaving r structs
    return {}
  else if atGroup .bracket ts then
    inside .bracket (elements r)
    return {}
  else if atWord "let" ts then
    bindingCondition r structs
    return {}
  else if atMark ".." ts then
    rangeRest r structs
    return { range := true }
  else if atWord "_" ts then
    word "_"
    return {}
  else
    -- What is left are blocks, loops and choices; anything else is no operand.
    require (← blockForm r)
    return { blockLike := true }

/-- The forms of operands. Attributes do not stand before a range without a start. -/
def operandForm (r : Rules) (structs : Bool) : Reader ExprForm := do
  let attributes ← outerAttributes r
  let ts ← rest
  if atMark "&" ts then
    mark "&"
    let ts ← rest
    if atWord "raw" ts && (atWord "mut" (tail ts) || atWord "const" (tail ts)) then
      word "raw"
      if !(← word? "mut") then word "const"
    else
      let _ ← word? "mut"
    let _ ← r.operand structs
    return {}
  else if let some op := ["*", "!", "-"].find? (atMark · ts) then
    mark op
    let _ ← r.operand structs
    return {}
  else
    let form ← trailers r (← atom r structs)
    require (attributes.isEmpty || !form.range)
    return form

def operandBody (r : Rules) (structs : Bool) : Reader ExprForm :=
  verbatimWhen ExprForm.rawHead (operandForm r structs)

def exprBody (r : Rules) (structs : Bool) : Reader ExprForm := do
  let form ← r.operand structs
  r.operation structs form 0

end TypedPreferences.Source.Grammar
