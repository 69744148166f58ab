import TypedPreferences.Source.Grammar.Attribute

/-! Bounds, generic parameters and the predicates on them. -/

namespace TypedPreferences.Source.Grammar

open Reader

/-- Bounds with plus signs between them, up to a stop; whether there is any. -/
def bounds {α : Type} (stop : List Token → Bool) (bound : Reader α) : Reader Bool := do
  let found ← separated stop "+" bound
  return !found.isEmpty

def paramStop (ts : List Token) : Bool :=
  atMark "," ts || atMark ">" ts || atMark "=" ts

/-- A generic parameter, up to the comma after it; an underscore may stand for it where it is
`anonymous`. A colon without bounds is dropped. -/
def genericParam (r : Rules) (bound : Reader Bool) (anonymous : Bool) : Reader GenericParam := do
  let (_, attributes) ← capture (outerAttributes r)
  let ts ← rest
  let colonBounds {α : Type} (p : Reader α) : Reader (List Token) := do
    let (found, spelled) ← capture do
      if ← mark? ":" then bounds paramStop p else return false
    return if found then spelled else []
  if atLifetime ts then
    let (_, id) ← capture lifetime
    return ⟨true, attributes, [], id, ← colonBounds lifetime, [], false⟩
  else if atWord "const" ts then
    let lead ← spelling (word "const")
    let (_, id) ← capture name
    let (_, ty) ← capture do
      mark ":"
      r.type
    let default ← spelling do
      if ← mark? "=" then constant r
    return ⟨false, attributes, lead, id, ty, default, false⟩
  else if anonymous && atWord "_" ts then
    let (_, id) ← capture anyWord
    return ⟨false, attributes, [], id, [], [], false⟩
  else
    let (_, id) ← capture name
    let bs ← colonBounds bound
    let default ← spelling do
      if ← mark? "=" then
        let _ ← r.type
    return ⟨false, attributes, [], id, bs, default, false⟩

/-- Generic parameters in angle marks, which may be missing. They are read without being written. -/
def genericParams (r : Rules) (bound : Reader Bool) (anonymous : Bool) :
    Reader (List GenericParam) := silently do
  if !(← looks (atMark "<")) then return []
  mark "<"
  let params ← repeated do
    if ← looks (atMark ">") then return none
    let p ← genericParam r bound anonymous
    let last ← looks (atMark ">")
    if !last then mark ","
    return some { p with comma := !last }
  mark ">"
  return params

def binder (r : Rules) (bound : Reader Bool) : Reader Unit := do
  word "for"
  require (← looks (atMark "<"))
  let params ← genericParams r bound false
  let comma : GenericParam → List Token := fun p => if p.comma then [Token.comma] else []
  write (.punct '<' false :: (params.flatMap fun p => p.declared ++ comma p) ++ [.punct '>' false])

/-- The arguments of a function bound: types in parentheses and a result. -/
def functionArgs (r : Rules) : Reader Unit := do
  let _ ← inside .paren (commaSeparated r.type)
  if ← mark? "->" then
    let _ ← r.type false

/-- What a bound may be at a place, besides a lifetime or a trait: a list of what a type captures,
or a trait whose functions are constant. -/
structure BoundPlace where
  captures : Bool := false
  constant : Bool := false

namespace BoundPlace

def parameter : BoundPlace := { constant := true }

def object : BoundPlace := {}

def unnamed : BoundPlace := { captures := true, constant := true }

end BoundPlace

/-- The path of a trait. The parentheses of a function bound take the place of empty angle marks,
and the double colon before them is dropped. -/
def traitPath (r : Rules) (bound : Reader Bool) : Reader Unit := do
  let (p, spelled) ← capture (path r bound false)
  let withoutArgs :=
    match p.last.args with
    | none => true
    | some (_, args, _) => args.isEmpty
  let ts ← rest
  let colons := atMark "::" ts && atGroup .paren (tail (tail ts))
  if withoutArgs && (colons || atGroup .paren ts) then
    write (spelled.take (spelled.length - p.last.spelling.length))
    if colons then silently (mark "::")
    functionArgs r
  else
    write spelled

/-- A trait as a bound; whether its functions are constant. Parameters that it holds for do not go
with a question mark. -/
def traitBound (r : Rules) (bound : Reader Bool) (place : BoundPlace) : Reader Bool := do
  let bindsAll ← looks (atWord "for")
  if bindsAll then binder r bound
  let ts ← rest
  let constant := atGroup .bracket ts || atWord "const" ts
  if atGroup .bracket ts then inside .bracket (word "const")
  else if constant then word "const"
  require (place.constant || !constant)
  if ← mark? "?" then require (!bindsAll && !(← looks (atWord "for")))
  traitPath r bound
  return constant

/-- A name in the list of what a type captures: whether it is a lifetime. -/
def captured : Reader Bool := do
  if ← looks atLifetime then
    let _ ← lifetime
    return true
  else
    if ← looks (atWord "Self") then
      let _ ← anyWord
    else
      let _ ← name
    return false

def captureList : Reader Unit := do
  word "use"
  silently (mark "<")
  let entries ← repeated do
    if ← looks (atMark ">") then return none
    let (isLifetime, spelled) ← capture captured
    let last ← looks (atMark ">")
    if !last then silently (mark ",")
    return some (isLifetime, spelled, !last)
  silently (mark ">")
  write (Token.angled entries)

/-- One bound, and whether it is a trait. `fuel` bounds the nesting of parameters that bounds hold
for. -/
def boundFrom (fuel : Nat) (r : Rules) (place : BoundPlace) : Reader Bool :=
  match fuel with
  | 0 => failure
  | fuel + 1 => do
    let ts ← rest
    let ofParameter := boundFrom fuel r .parameter
    if atLifetime ts then
      let _ ← lifetime
      return false
    else if atWord "use" ts then
      require place.captures
      captureList
      return false
    else
      let _ ← verbatimWhen id <|
        if atGroup .paren ts then inside .paren (traitBound r ofParameter place)
        else traitBound r ofParameter place
      return true

def bound (r : Rules) (place : BoundPlace := .parameter) : Reader Bool := do
  boundFrom (Token.weightAll (← rest) + 1) r place

def atBound (place : BoundPlace) (ts : List Token) : Bool :=
  atAnyWord ts || atMark "::" ts || atMark "?" ts || atLifetime ts || atGroup .paren ts ||
    (place.constant && atGroup .bracket ts)

/-- The bounds of a type: at least one is a trait. A plus sign may end them. -/
def typeBounds (r : Rules) (plus : Bool) (place : BoundPlace) : Reader Unit := do
  let first ← bound r place
  let more ← repeated do
    if plus && (← mark? "+") then
      if ← looks (atBound place) then return some (← bound r place) else return none
    else
      return none
  require (first || more.any id)

def atGenerics (ts : List Token) : Bool :=
  let second := tail ts
  let third := tail second
  atMark "<" ts &&
    (atMark ">" second || atMark "#" second || atWord "const" second ||
      ((atLifetime second || atName second) &&
        (atMark ">" third || atMark "," third || (atMark ":" third && !atMark "::" third) ||
          atMark "=" third)))

def predicateStop (ts : List Token) : Bool :=
  ts.isEmpty || atGroup .brace ts || atMark "," ts || atMark ";" ts ||
    (atMark ":" ts && !atMark "::" ts) || atMark "=" ts

def predicate (r : Rules) : Reader Unit := do
  let ts ← rest
  if atLifetime ts && atMark ":" (tail ts) then
    let _ ← lifetime
    mark ":"
    let _ ← bounds predicateStop lifetime
  else
    if atWord "for" ts then binder r (bound r)
    let _ ← r.type
    mark ":"
    let _ ← bounds predicateStop (bound r)

/-- The predicates after `where`, which may be missing. They are read without being written; without
predicates the word is dropped. -/
def predicates (r : Rules) : Reader (List Token) := do
  if !(← looks (atWord "where")) then return []
  let (found, spelled) ← capture do
    word "where"
    require (!(← looks atGenerics))
    separated predicateStop "," (predicate r)
  return if found.isEmpty then [] else spelled

def generics (r : Rules) : Reader Generics := do
  let params ← genericParams r (bound r) true
  let g : Generics := { params }
  write g.declared
  return g

def withPredicates (r : Rules) (g : Generics) : Reader Generics := do
  let more ← predicates r
  write more
  return { g with predicates := g.predicates ++ more }

end TypedPreferences.Source.Grammar
