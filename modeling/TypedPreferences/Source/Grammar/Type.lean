import TypedPreferences.Source.Grammar.Generics

/-! Types. The forms that decide a type's identity are structured, all others are kept as their
spelling. -/

namespace TypedPreferences.Source.Grammar

open Reader

/-- What a type is found to be: its structure, if its form has one; the spelling of the bound it
consists of; and whether it is kept as it stands in the source. -/
structure TypeForm where
  ty : Option Ty := none
  bound : Option (List Token) := none
  asItStands : Bool := false

def atListEnd (ts : List Token) : Bool :=
  ts.isEmpty || (atMark "," ts && (tail ts).isEmpty)

/-- The three dots for any further parameters of a function pointer, with a name or not, if they
stand here; they end the list. -/
def variadic? : Reader Bool := do
  let ts ← rest
  let next := tail ts
  let named := (atName ts || atWord "_" ts) && atMark ":" next && atMark "..." (tail next)
  if !named && !atMark "..." ts then return false
  if named then
    let _ ← anyWord
    mark ":"
  mark "..."
  require (← looks atListEnd)
  return true

def atMutableSelf (ts : List Token) : Bool :=
  atWord "mut" ts && atWord "self" (tail ts)

/-- A parameter of a function pointer, with a name or not; the first may be the value that the
function is called on. Whether that value is to be changed: then the parameter is kept as it
stands. -/
def pointerArgument (r : Rules) (first : Bool) : Reader Bool := do
  let marked := first && atMutableSelf (← rest)
  if marked then word "mut"
  let ts ← rest
  let next := tail ts
  let isSelf := first && atWord "self" ts
  let named := (atName ts || atWord "_" ts || isSelf) && atMark ":" next && !atMark "::" next
  if named then
    let _ ← anyWord
    mark ":"
  if first && !(named && isSelf) && atMutableSelf (← rest) then
    word "mut"
    word "self"
    return true
  else if marked && !named then
    word "self"
    return true
  else
    let _ ← r.type
    return marked

def pointerParam (r : Rules) (first : Bool) : Reader Unit := do
  let _ ← outerAttributes r
  if ← variadic? then return
  let _ ← verbatimWhen id (pointerArgument r first)

def pointerParams (r : Rules) : Reader Unit := do
  if ← atEnd then return
  pointerParam r true
  if !(← atEnd) then
    mark ","
    let _ ← commaSeparated (pointerParam r false)

def abi? : Reader Bool := do
  if ← word? "extern" then
    if ← looks atTextLiteral then literal
    return true
  else
    return false

def result? (r : Rules) (plus : Bool) : Reader (Option Ty) := do
  if ← mark? "->" then
    return some (← r.type plus)
  else
    return none

def functionPointer (r : Rules) : Reader Unit := do
  let _ ← word? "unsafe"
  let _ ← abi?
  word "fn"
  inside .paren (pointerParams r)
  let _ ← result? r false

/-- Further bounds, each after a plus sign; whether there are any. -/
def moreBounds (r : Rules) : Reader Bool := do
  let more ← whileLooks (atMark "+") do
    mark "+"
    bound r .object
  return !more.isEmpty

/-- What stands in parentheses: one type, a trait with a question mark, or the types of a tuple. -/
inductive Parenthesised where
  | single (read : TypeRead)
  | relaxed (spelling : List Token)
  | tuple

def parenthesised (r : Rules) : Reader Parenthesised :=
  inside .paren do
    let ts ← rest
    if ts.isEmpty then return .tuple
    if atLifetime ts then
      let (_, spelled) ← noting (typeBounds r true .object)
      return .single { ty := .other spelled }
    if atMark "?" ts then
      let (_, spelled) ← noting (traitBound r (bound r) .object)
      return .relaxed spelled
    let first ← r.typeRead
    if ← looks (atMark ",") then
      mark ","
      let _ ← commaSeparated r.type
      return .tuple
    else
      return .single first

/-- A type that begins with parentheses. A single trait in them may begin a sum of bounds; of
several pairs of parentheses around it only one is written. -/
def parenType (r : Rules) (plus : Bool) : Reader TypeForm := do
  let (inner, spelled) ← capture (parenthesised r)
  match inner with
  | .tuple =>
    write spelled
    return {}
  | .relaxed trait =>
    write spelled
    let more ← moreBounds r
    return { bound := if more then none else some trait }
  | .single read =>
    let sum := plus && (← looks (atMark "+"))
    match if sum then read.bound else none with
    | some trait =>
      write (Token.parens trait)
      let _ ← moreBounds r
      return {}
    | none =>
      write spelled
      return { ty := some (.paren read.ty) }

/-- A sum of bounds after its first one; whether that is the only one and no plus sign follows. -/
def boundsAfter (r : Rules) : Reader Bool := do
  let alone ← looks (!atMark "+" ·)
  let _ ← repeated do
    if ← mark? "+" then
      if ← looks (atBound .object) then return some (← bound r .object)
    return none
  return alone

/-- A type that begins with a path, after the parameters that it holds for or not. A macro call
does not keep these parameters. -/
def pathType (r : Rules) (plus : Bool) (parameters : List Token) : Reader TypeForm := do
  let (found, spelled) ← capture (qualifiedPath r (bound r) false)
  let ts ← rest
  match found with
  | .inl last =>
    write spelled
    return { ty := some (.projection spelled last) }
  | .inr p =>
    if atMark "!" ts && !atMark "!=" ts && p.named.isModStyle then
      write spelled
      mark "!"
      let _ ← rawGroup
      return {}
    let trait := parameters ++ spelled
    write trait
    if !parameters.isEmpty || (plus && atMark "+" ts) then
      let alone ← if plus then boundsAfter r else pure true
      return { bound := if alone then some trait else none }
    else
      return { ty := some p.ty, bound := some trait }

def atBuiltin (ts : List Token) : Bool :=
  atWord "builtin" ts && atMark "#" (tail ts)

/-- A type or an expression that is built into the language: its name and its arguments. -/
def builtin : Reader Unit := do
  word "builtin"
  mark "#"
  let _ ← name
  require ((← rawGroup) == .paren)

/-- A type that begins with a path, a function pointer or a type that is built in, after the
parameters that it holds for or not. -/
def namedType (r : Rules) (plus : Bool) (parameters : List Token) : Reader TypeForm := do
  let ts ← rest
  if atWord "fn" ts || atWord "unsafe" ts || atWord "extern" ts then
    write parameters
    functionPointer r
    return {}
  else if atBuiltin ts then
    builtin
    return { asItStands := true }
  else
    pathType r plus parameters

def atNamedType (ts : List Token) : Bool :=
  atPathWord ts || atWord "fn" ts || atWord "unsafe" ts || atWord "extern" ts

def typeForm (r : Rules) (plus : Bool) : Reader TypeForm := do
  let ts ← rest
  if atWord "for" ts then
    let ((), parameters) ← capture (binder r (bound r))
    require (← looks atNamedType)
    namedType r plus parameters
  else if atGroup .paren ts then parenType r plus
  else if atNamedType ts || atMark "::" ts || atMark "<" ts then namedType r plus []
  else if atWord "dyn" ts then
    word "dyn"
    let starred ← mark? "*"
    typeBounds r plus .object
    return { asItStands := starred }
  else if atGroup .bracket ts then
    inside .bracket do
      let element ← r.type
      if ← mark? ";" then
        let (_, length) ← noting r.expr
        return { ty := some (.array element length) }
      else
        return { ty := some (.slice element) }
  else if atMark "*" ts then
    mark "*"
    if !(← word? "const") then word "mut"
    let _ ← r.type false
    return {}
  else if atMark "&" ts then
    mark "&"
    let ((), modifiers) ← noting do
      if ← looks atLifetime then
        let _ ← lifetime
      let _ ← word? "mut"
    return { ty := some (.reference modifiers (← r.type false)) }
  else if atMark "!" ts then
    mark "!"
    return {}
  else if atWord "impl" ts then
    word "impl"
    typeBounds r plus .unnamed
    return {}
  else if atWord "_" ts then
    word "_"
    return {}
  else if atLifetime ts then
    typeBounds r true .object
    return {}
  else
    failure

def typeBody (r : Rules) (plus : Bool) : Reader TypeRead := do
  let (form, spelled) ← noting (verbatimWhen TypeForm.asItStands (typeForm r plus))
  return ⟨form.ty.getD (.other spelled), form.bound⟩

end TypedPreferences.Source.Grammar
