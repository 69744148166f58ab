import TypedPreferences.Source.Grammar.Statement

/-! Items: what a source declares at its top level, in its modules and in its blocks. -/

namespace TypedPreferences.Source.Grammar

open Reader

/-- Who sees an item. Parentheses restrict it only when they hold one word for a place, or a path
after `in`. -/
def visibility : Reader Visibility := do
  if !(← word? "pub") then return .inherited
  match ← rest with
  | .group .paren body :: _ =>
    if ["crate", "self", "super"].any (atWord · body) && body.length == 1 then
      let _ ← rawGroup
      return .restricted
    else if atWord "in" body then
      inside .paren do
        word "in"
        let _ ← modPath
      return .restricted
    else
      return .everywhere
  | _ => return .everywhere

def fieldsBy {α : Type} (p : Reader α) : Reader (List α) :=
  inside .brace (commaSeparated p)

/-- A field with a name; an underscore may stand for it, and then the type may list fields in
braces, read by `nested`. -/
def namedFieldBy (r : Rules) (nested : Reader Unit) : Reader NamedField := do
  let attributes ← outerAttributes r
  let _ ← visibility
  let unnamed ← looks (atWord "_")
  let key ← if unnamed then anyWord else name
  mark ":"
  let ts ← rest
  if unnamed && (atWord "struct" ts || (atWord "union" ts && atGroup .brace (tail ts))) then
    let ((), spelled) ← noting (verbatim nested)
    return ⟨attributes, key, .other spelled⟩
  else
    return ⟨attributes, key, ← r.type⟩

/-- A field with a name; `fuel` bounds the nesting of fields that are listed as a type. -/
def namedFieldFrom (fuel : Nat) (r : Rules) : Reader NamedField :=
  match fuel with
  | 0 => namedFieldBy r failure
  | fuel + 1 => namedFieldBy r do
    let _ ← anyWord
    let _ ← fieldsBy (namedFieldFrom fuel r)

def namedFields (r : Rules) : Reader (List NamedField) := do
  fieldsBy (namedFieldFrom (Token.weightAll (← rest)) r)

def tupleFields (r : Rules) : Reader Unit := do
  let _ ← inside .paren <| commaSeparated do
    let _ ← outerAttributes r
    let _ ← visibility
    let _ ← r.type

def recordBody (r : Rules) (g : Generics) : Reader (Generics × Fields) := do
  let hasWhere ← looks (atWord "where")
  let g ← withPredicates r g
  let ts ← rest
  if !hasWhere && atGroup .paren ts then
    tupleFields r
    let g ← withPredicates r g
    mark ";"
    return (g, .tuple)
  else if atGroup .brace ts then
    return (g, .named (← namedFields r))
  else
    mark ";"
    return (g, .unit)

def record (r : Rules) : Reader ItemKind := do
  word "struct"
  let id ← name
  let (g, fields) ← recordBody r (← generics r)
  return .record id g fields

def variant (r : Rules) : Reader Variant := do
  let _ ← outerAttributes r
  let _ ← silently visibility
  let id ← name
  let ts ← rest
  let fields ←
    if atGroup .brace ts then Fields.named <$> namedFields r
    else if atGroup .paren ts then
      tupleFields r
      pure .tuple
    else pure .unit
  if ← mark? "=" then
    let _ ← r.expr
  return ⟨id, fields⟩

def enumeration (r : Rules) : Reader ItemKind := do
  word "enum"
  let id ← name
  let g ← withPredicates r (← generics r)
  return .enumeration id g (← inside .brace (commaSeparated (variant r)))

def overlay (r : Rules) : Reader ItemKind := do
  word "union"
  let id ← name
  let g ← withPredicates r (← generics r)
  let _ ← namedFields r
  return .overlay id g

/-- The value that a function is called on, as its first parameter. No path goes on after a
reference to it. -/
def receiver (r : Rules) : Reader Unit := do
  let byRef ← mark? "&"
  if byRef && (← looks atLifetime) then
    let _ ← lifetime
  let _ ← word? "mut"
  word "self"
  if byRef then require (!(← looks (atMark "::")))
  else if ← mark? ":" then
    let _ ← r.type

/-- A parameter of a function; three dots give none and end the list. An old form without a pattern
gets an underscore. -/
def parameter (r : Rules) : Reader (Option Parameter) := do
  let _ ← outerAttributes r
  let ts ← rest
  if ← mark? "..." then
    require (← looks atListEnd)
    return none
  else if (← ahead? (receiver r)).isSome then
    receiver r
    return some .receiver
  else if atName ts && atMark "<" (tail ts) then
    write [.ident "_", .punct ':' false]
    return some (.typed (← r.type))
  else
    let _ ← r.pattern
    mark ":"
    if ← mark? "..." then
      require (← looks atListEnd)
      return none
    else
      return some (.typed (← r.type))

def isReceiver : Parameter → Bool
  | .receiver => true
  | .typed _ => false

/-- The words before the name of a function; whether they say that it is safe, which only those of
`foreign` code do. -/
def functionWords (foreign : Bool) : Reader Bool := do
  let _ ← word? "const"
  let _ ← word? "async"
  let isUnsafe ← word? "unsafe"
  let isSafe ← if foreign && !isUnsafe then word? "safe" else pure false
  let _ ← abi?
  word "fn"
  return isSafe

/-- The signature of a function. Only its first parameter may be the value that it is called on. -/
def signature (r : Rules) (foreign : Bool := false) : Reader Signature := do
  let _ ← functionWords foreign
  let id ← name
  let g ← generics r
  let params ← inside .paren (commaSeparated (parameter r))
  let params := params.reduceOption
  require (!(params.drop 1).any isReceiver)
  let output ← result? r true
  let g ← withPredicates r g
  return ⟨id, g, params, output⟩

def atSignature : Reader Bool := do
  return (← ahead? (functionWords false)).isSome

def body (r : Rules) : Reader (List Attribute) :=
  inside .brace do
    let attributes ← innerAttributes r
    statements r
    return attributes

def constantName : Reader Unit := do
  if ← looks (atWord "_") then word "_"
  else
    let _ ← name

/-- A constant as it is read: its value, and whether parameters or predicates stand with it. -/
structure ConstantRead where
  value : Option (List Token)
  generic : Bool

/-- The value of a constant that is kept in its normal spelling: it has one, and nothing is
generic. -/
def ConstantRead.plain? (c : ConstantRead) : Option (List Token) :=
  if c.generic then none else c.value

def constantRest (r : Rules) : Reader ConstantRead := do
  word "const"
  constantName
  let withParams ← looks (atMark "<")
  let _ ← generics r
  mark ":"
  let _ ← r.type
  let value ←
    if ← mark? "=" then
      let (_, spelled) ← noting r.expr
      pure (some spelled)
    else pure none
  let withPredicates ← looks (atWord "where")
  write (← predicates r)
  mark ";"
  return ⟨value, withParams || withPredicates⟩

/-- A named type as it is read: whether a colon follows it, and whether it has a definition. -/
structure TypeItemRead where
  colon : Bool
  defined : Bool

def TypeItemRead.isAlias (t : TypeItemRead) : Bool :=
  t.defined && !t.colon

/-- A named type, after its visibility: parameters, bounds, predicates before or after a definition.
A colon without bounds is dropped. -/
def typeRest (r : Rules) (early late : Bool) : Reader TypeItemRead := do
  word "type"
  let _ ← name
  let _ ← generics r
  let colon ← looks (atMark ":")
  let (found, spelled) ← capture do
    if ← mark? ":" then
      bounds (fun ts => atWord "where" ts || atMark "=" ts || atMark ";" ts) (bound r)
    else return false
  if found then write spelled
  let hasWhere ← looks (atWord "where")
  if early then write (← predicates r)
  let defined ← mark? "="
  if defined then
    let _ ← r.type
  if late && !(early && hasWhere) then write (← predicates r)
  mark ";"
  return ⟨colon, defined⟩

def ruleItem (named : Bool) : Reader Unit := do
  let _ ← modPath
  mark "!"
  if named && (← looks fun ts => atName ts || atWord "try" ts) then
    let _ ← anyWord
  if (← rawGroup) != .brace then mark ";"

def atRuleItem (ts : List Token) : Bool :=
  atName ts || atWord "self" ts || atWord "super" ts || atWord "crate" ts || atMark "::" ts

/-- A member of a trait. Whether it is kept as it stands: one with a visibility or a default word,
or a generic constant. -/
def traitMember (r : Rules) : Reader Bool := do
  let _ ← outerAttributes r
  let sight ← visibility
  let hasDefault ← word? "default"
  let marked := sight != .inherited || hasDefault
  let ts ← rest
  if ← atSignature then
    let _ ← signature r
    if !(← mark? ";") then
      let _ ← body r
    return marked
  else if atWord "const" ts then
    return (← constantRest r).generic || marked
  else if atWord "type" ts then
    let _ ← typeRest r false true
    return marked
  else
    require (!marked && atRuleItem ts)
    ruleItem false
    return false

def traitBody (r : Rules) : Reader Unit := do
  let (found, spelled) ← capture do
    if ← mark? ":" then
      bounds (fun ts => atWord "where" ts || atGroup .brace ts) (bound r)
    else return false
  if found then write spelled
  write (← predicates r)
  inside .brace do
    let _ ← innerAttributes r
    let _ ← whileLooks (!·.isEmpty) (verbatimWhen id (traitMember r))

def traitItem (r : Rules) : Reader Unit := do
  let isUnsafe ← word? "unsafe"
  let isAuto ← word? "auto"
  word "trait"
  let _ ← name
  let _ ← generics r
  if !isUnsafe && !isAuto && (← mark? "=") then
    let _ ← bounds (fun ts => atWord "where" ts || atMark ";" ts) (bound r .object)
    write (← predicates r)
    mark ";"
  else
    traitBody r

/-- A member of an implementation as it is read, and whether it is kept as it stands. -/
structure MemberRead where
  member : Member := .other
  asItStands : Bool := false

/-- A member of an implementation. A function without a body, a constant that is generic or has no
value, and a type that is not just its definition are kept as they stand. -/
def implMember (r : Rules) : Reader MemberRead := do
  let _ ← outerAttributes r
  let sight ← visibility
  let hasDefault ←
    if ← looks fun ts => atWord "default" ts && !atMark "!" (tail ts) then
      word? "default"
    else pure false
  let ts ← rest
  if ← atSignature then
    let sig ← signature r
    if ← mark? ";" then return { asItStands := true }
    let _ ← body r
    return { member := .function sight sig }
  else if atWord "const" ts then
    match (← constantRest r).plain? with
    | some value => return { member := .constant value }
    | none => return { asItStands := true }
  else if atWord "type" ts then
    return { asItStands := !(← typeRest r false true).isAlias }
  else
    require (sight == .inherited && !hasDefault && atRuleItem ts)
    ruleItem false
    return {}

/-- An item as it is read: what it declares, the inner attributes that belong to it, and whether it
is kept as it stands. -/
structure ItemRead where
  kind : ItemKind := .other
  inner : List Attribute := []
  asItStands : Bool := false

/-- An implementation. It is kept as it stands when it has a visibility, is constant, or is for a
trait that is no path. Only one for a trait may be negative. -/
def implementation (r : Rules) (hasVisibility : Bool) : Reader ItemRead := do
  let _ ← word? "default"
  let _ ← word? "unsafe"
  word "impl"
  let g ← if ← looks atGenerics then generics r else pure {}
  let ts ← rest
  let isConst := atWord "const" ts || (atMark "?" ts && atWord "const" (tail ts))
  if isConst then
    let _ ← mark? "?"
    word "const"
  -- Before a brace, the mark is a type of its own.
  let negative ← looks fun ts => atMark "!" ts && !atGroup .brace (tail ts)
  if negative then mark "!"
  let first ← r.type
  let isPath :=
    match first with
    | .plain .. | .applied .. => true
    | _ => false
  let isFor ← word? "for"
  require (isFor || !negative)
  let selfType ← if isFor then r.type else pure first
  let g ← withPredicates r g
  let (inner, members) ← inside .brace do
    let inner ← innerAttributes r
    let members ← whileLooks (!·.isEmpty) (verbatimWhen MemberRead.asItStands (implMember r))
    return (inner, members.map (·.member))
  if hasVisibility || isConst || (isFor && !isPath) then return { asItStands := true }
  else return { kind := .implementation ⟨g, isFor, selfType, members⟩, inner }

def submodule (r : Rules) : Reader ItemRead := do
  let _ ← word? "unsafe"
  word "mod"
  let id ← if ← looks (atWord "try") then anyWord else name
  if ← mark? ";" then return { kind := .submodule id none }
  inside .brace do
    let inner ← innerAttributes r
    let content ← whileLooks (!·.isEmpty) r.item
    return { kind := .submodule id (some content), inner }

/-- A tree of imported names. A double colon may begin a part of it where it is `rooted` and no name
or double colon stands before; whether one does. -/
def importsBody (r : Rules) (rooted : Bool) : Reader Bool := do
  let ts ← rest
  if atMark "*" ts then
    mark "*"
    return false
  else if atGroup .brace ts then
    let parts ← fieldsBy do
      let fromRoot ← if rooted then mark? "::" else pure false
      return (← r.imports (rooted && !fromRoot)) || fromRoot
    return parts.any id
  else
    require (atName ts || ["self", "super", "crate", "try"].any (atWord · ts))
    let _ ← anyWord
    if ← mark? "::" then return ← r.imports false
    if ← word? "as" then constantName
    return false

/-- An import; whether a double colon begins a part of it in braces, which keeps it as it stands. -/
def importItem (r : Rules) : Reader Bool := do
  word "use"
  let fromRoot ← mark? "::"
  let partFromRoot ← r.imports (!fromRoot)
  mark ";"
  return partFromRoot

/-- A static value; whether it is kept as it stands, which it is without a type or a value. -/
def staticItem (r : Rules) : Reader Bool := do
  word "static"
  let _ ← word? "mut"
  let _ ← name
  let typed ← mark? ":"
  if typed then
    let _ ← r.type
    if ← mark? ";" then return true
  mark "="
  let _ ← r.expr
  mark ";"
  return !typed

/-- A static value of foreign code; whether it is kept as it stands, which it is with a word for its
safety or a value. -/
def foreignStatic (r : Rules) : Reader Bool := do
  let isUnsafe ← word? "unsafe"
  let isSafe ← if isUnsafe then pure false else word? "safe"
  word "static"
  let _ ← word? "mut"
  let _ ← name
  mark ":"
  let _ ← r.type
  let valued ← mark? "="
  if valued then
    let _ ← r.expr
  mark ";"
  return isUnsafe || isSafe || valued

/-- A function, a static value or a type of foreign code. Whether it is kept as it stands: a safe
function, one with a body, or a type with a colon or a definition. -/
def foreignMember (r : Rules) : Reader Bool := do
  let _ ← outerAttributes r
  let sight ← visibility
  let ts ← rest
  if let some isSafe ← ahead? (functionWords true) then
    let _ ← signature r true
    let bodiless ← mark? ";"
    if !bodiless then
      let _ ← body r
    return isSafe || !bodiless
  else if atWord "static" ts ||
      ((atWord "unsafe" ts || atWord "safe" ts) && atWord "static" (tail ts)) then
    foreignStatic r
  else if atWord "type" ts then
    let t ← typeRest r true true
    return t.colon || t.defined
  else
    require (sight == .inherited && atRuleItem ts)
    ruleItem false
    return false

def foreignLibrary : Reader Unit := do
  word "extern"
  word "crate"
  if ← looks (atWord "self") then word "self"
  else
    let _ ← name
  if ← word? "as" then constantName
  mark ";"

def foreignBlock (r : Rules) : Reader Unit := do
  let _ ← word? "unsafe"
  let _ ← abi?
  inside .brace do
    let _ ← innerAttributes r
    let _ ← whileLooks (!·.isEmpty) (verbatimWhen id (foreignMember r))

def ruleDefinition : Reader Unit := do
  word "macro"
  let _ ← name
  if ← looks (atGroup .paren) then
    let _ ← rawGroup
  require (← looks (atGroup .brace))
  let _ ← rawGroup

def function (r : Rules) (sight : Visibility) : Reader ItemRead := do
  let sig ← signature r
  if ← mark? ";" then return { asItStands := true }
  return { kind := .function sight sig, inner := ← body r }

def itemRest (r : Rules) : Reader ItemRead := do
  let sight ← visibility
  let ts ← rest
  let next := tail ts
  let plainly (p : Reader Unit) : Reader ItemRead := do
    p
    return {}
  let declaring (p : Reader ItemKind) : Reader ItemRead := do
    return { kind := ← p }
  let keptWhen (p : Reader Bool) : Reader ItemRead := do
    return { asItStands := ← p }
  -- The same word may stand before items of several kinds, so the ones behind it are looked at.
  if ← atSignature then function r sight
  else if atWord "extern" ts && atWord "crate" next then plainly foreignLibrary
  else if atWord "extern" ts || (atWord "unsafe" ts && atWord "extern" next) then
    require (sight == .inherited)
    plainly (foreignBlock r)
  else if atWord "use" ts then keptWhen (importItem r)
  else if atWord "static" ts then keptWhen (staticItem r)
  else if atWord "const" ts then keptWhen do
    return (← constantRest r).plain?.isNone
  else if atWord "mod" ts || (atWord "unsafe" ts && atWord "mod" next) then submodule r
  else if atWord "type" ts then keptWhen do
    return !(← typeRest r true false).isAlias
  else if atWord "struct" ts then declaring (record r)
  else if atWord "enum" ts then declaring (enumeration r)
  else if atWord "union" ts && atName next then declaring (overlay r)
  else if atWord "trait" ts || (atWord "auto" ts && atWord "trait" next) ||
      (atWord "unsafe" ts &&
        (atWord "trait" next || (atWord "auto" next && atWord "trait" (tail next)))) then
    plainly (traitItem r)
  else if atWord "impl" ts || (atWord "unsafe" ts && atWord "impl" next) ||
    (atWord "default" ts && !atMark "!" next) then
    implementation r (sight != .inherited)
  else if atWord "macro" ts then keptWhen do
    ruleDefinition
    return true
  else
    require (sight == .inherited && atRuleItem ts)
    plainly (ruleItem true)

/-- An item. One that is kept as it stands has no attributes of its own. -/
def itemBody (r : Rules) : Reader Item := do
  let ((outer, read), spelled) ← noting <| verbatimWhen (·.2.asItStands) do
    return (← outerAttributes r, ← itemRest r)
  return .mk (if read.asItStands then [] else outer ++ read.inner) read.kind spelled

end TypedPreferences.Source.Grammar
