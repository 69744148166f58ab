import TypedPreferences.Source.Grammar.Type
import TypedPreferences.Text.Quoted

/-! Patterns. They are read and written, and nothing of them is kept. -/

namespace TypedPreferences.Source.Grammar

open Reader

def digitIn? (base : Nat) (c : Char) : Option Nat := do
  let d ← Text.hexDigit? c
  if d < base then some d else none

def digitsIn? (base : Nat) (cs : List Char) : Option Nat :=
  let digits := cs.filter (· != '_')
  if digits.isEmpty then none
  else digits.foldlM (fun n c => (digitIn? base c).map (n * base + ·)) 0

def wholeNumber? (text : String) : Option Nat :=
  match text.toList with
  | '0' :: 'x' :: cs => digitsIn? 16 cs
  | '0' :: 'o' :: cs => digitsIn? 8 cs
  | '0' :: 'b' :: cs => digitsIn? 2 cs
  | c :: cs => if c.isDigit then digitsIn? 10 (c :: cs) else none
  | [] => none

/-- The position of a field that has no name; it is written in decimal digits. -/
def position : Reader Unit := do
  match ← rest with
  | .literal text :: ts =>
    match wholeNumber? text with
    | some n =>
      require (n < UInt32.size)
      moveTo ts
      write [.literal (toString n)]
    | none => failure
  | _ => failure

def fieldKey : Reader Bool := do
  if ← looks atName then
    let _ ← name
    return true
  else
    position
    return false

/-- The limits of a range: whether the end belongs to it. Three dots, where they are allowed, are
written as the dots with the equals sign. -/
def rangeLimits (threeDots : Bool) : Reader Bool := do
  if ← mark? "..=" then return true
  else if ← looks (atMark "...") then
    require threeDots
    silently (mark "...")
    write (Token.operator "..=")
    return true
  else
    mark ".."
    return false

def constantBlock (r : Rules) : Reader Unit := do
  word "const"
  r.block

def rangeBound (r : Rules) : Reader Bool := do
  let ts ← rest
  if ts.isEmpty || atMark "|" ts || atMark "=" ts || (atMark ":" ts && !atMark "::" ts) ||
    atMark "," ts || atMark ";" ts ||
      atWord "if" ts then
    return false
  if atLiteral ts then literal
  else if atPathWord ts || atMark "::" ts || atMark "<" ts then
    let _ ← qualifiedPath r (bound r) true
  else
    constantBlock r
  return true

/-- The dots of a range pattern and its end; whether there is one. -/
def rangeEnd (r : Rules) (threeDots : Bool) : Reader Bool := do
  let closed ← rangeLimits threeDots
  let found ← rangeBound r
  require (!closed || found)
  return found

def atAlternative (ts : List Token) : Bool :=
  atMark "|" ts && !atMark "||" ts && !atMark "|=" ts

/-- A pattern with its alternatives; whether it is nothing but a range with one bound. -/
def alternativesRead (r : Rules) : Reader Bool := do
  let bar ← mark? "|"
  let first ← r.pattern
  let more ← whileLooks atAlternative do
    mark "|"
    r.pattern
  return first.openRange && !bar && more.isEmpty

def alternatives (r : Rules) : Reader Unit := do
  let _ ← alternativesRead r

def fieldPattern (r : Rules) : Reader Unit := do
  let boxed ← word? "box"
  let byRef ← word? "ref"
  let mutable_ ← word? "mut"
  let marked := boxed || byRef || mutable_
  let named ← fieldKey
  require (named || !marked)
  if !named || (!marked && (← looks (atMark ":"))) then
    mark ":"
    alternatives r

def fieldPatterns (r : Rules) : Reader Unit := do
  let _ ← commaSeparated do
    let _ ← outerAttributes r
    if ← looks (atMark "..") then
      mark ".."
      require (← atEnd)
    else
      fieldPattern r

/-- A pattern that begins with a path: a structure, a tuple, a range, a macro call or the path. -/
def pathPattern (r : Rules) : Reader PatternForm := do
  let found ← qualifiedPath r (bound r) true
  let modStyle :=
    match found with
    | .inl _ => false
    | .inr p => p.named.isModStyle
  let ts ← rest
  if modStyle && atMark "!" ts && !atMark "!=" ts then
    mark "!"
    let _ ← rawGroup
    return {}
  else if atGroup .brace ts then
    inside .brace (fieldPatterns r)
    return {}
  else if atGroup .paren ts then
    let _ ← inside .paren (commaSeparated (alternatives r))
    return {}
  else if atMark ".." ts then
    return { openRange := !(← rangeEnd r true) }
  else
    return {}

def binding (r : Rules) : Reader Unit := do
  let _ ← word? "ref"
  let _ ← word? "mut"
  if ← looks (atWord "self") then word "self"
  else
    let _ ← name
  if ← mark? "@" then
    let _ ← r.pattern

def atPathPattern (ts : List Token) : Bool :=
  let next := tail ts
  (atName ts && (atMark "::" next || atMark "!" next || atGroup .brace next ||
    atGroup .paren next || atMark ".." next)) ||
    (atWord "self" ts && atMark "::" next) || atMark "::" ts || atMark "<" ts || atWord "Self" ts ||
      atWord "super" ts || atWord "crate" ts

/-- An element in the pattern of a slice. It is no range with one bound, unless parentheses or
alternatives surround it. -/
def elementPattern (r : Rules) : Reader Unit := do
  require (!(← alternativesRead r))

def patternForm (r : Rules) : Reader PatternForm := do
  let ts ← rest
  if atPathPattern ts then pathPattern r
  else if atWord "_" ts then
    word "_"
    return {}
  else if atWord "box" ts then
    word "box"
    let _ ← r.pattern
    return { asItStands := true }
  else if atMark "-" ts || atLiteral ts || atWord "const" ts then
    require (← rangeBound r)
    if ← looks (atMark "..") then return { openRange := !(← rangeEnd r true) } else return {}
  else if atWord "ref" ts || atWord "mut" ts || atWord "self" ts || atName ts then
    binding r
    return {}
  else if atMark "&" ts then
    mark "&"
    let _ ← word? "mut"
    let _ ← r.pattern
    return {}
  else if atGroup .paren ts then
    let _ ← inside .paren (commaSeparated (alternatives r))
    return {}
  else if atGroup .bracket ts then
    let _ ← inside .bracket (commaSeparated (elementPattern r))
    return {}
  else
    -- A range without a beginning.
    return { openRange := ← rangeEnd r false }

def patternBody (r : Rules) : Reader PatternForm :=
  verbatimWhen PatternForm.asItStands (patternForm r)

end TypedPreferences.Source.Grammar
