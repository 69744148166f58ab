import TypedPreferences.Source.Grammar.Phrase

/-! Paths and generic arguments. -/

namespace TypedPreferences.Source.Grammar

open Reader

/-- A segment of a path as it is read: its name, its arguments, and their spelling. -/
structure SegmentRead where
  name : String
  args : Option (Bool × List Arg × Bool)
  spelling : List Token

def constant (r : Rules) : Reader Unit := do
  let ts ← rest
  if atLiteral ts then literal
  else if atName ts then
    let _ ← name
  else
    r.block

def constraintBounds (bound : Reader Bool) : Reader Unit := do
  let _ ← separated (fun ts => atMark "," ts || atMark ">" ts) "+" bound

/-- A generic argument. A type of one segment followed by an equals sign or a colon names an
associated item. -/
def argument (r : Rules) (bound : Reader Bool) : Reader Arg := do
  let ts ← rest
  if atLifetime ts && !atMark "+" (tail ts) then
    return .lifetime (← lifetime)
  if atLiteral ts || atGroup .brace ts then
    let ((), spelled) ← noting (constant r)
    return .other spelled
  let (found, spelled) ← noting do
    let ty ← r.type
    let single :=
      match ty with
      | .plain q _ => !q.leading && q.steps.isEmpty
      | .applied q _ _ _ _ => !q.leading && q.steps.isEmpty
      | _ => false
    if single && (← mark? "=") then
      let ts ← rest
      if atLiteral ts || atGroup .brace ts then constant r
      else
        let _ ← r.type
      return none
    else if single && (← mark? ":") then
      constraintBounds bound
      return none
    else
      return some ty
  return found.elim (.other spelled) .type

/-- Arguments in angle marks: the arguments and whether a comma follows the last. They are written
with lifetimes first. -/
def angledArgs (r : Rules) (bound : Reader Bool) : Reader (List Arg × Bool) := do
  silently (mark "<")
  let entries ← repeated do
    if ← looks (atMark ">") then return none
    let (arg, spelled) ← capture (argument r bound)
    let last ← looks (atMark ">")
    if !last then silently (mark ",")
    return some (arg, spelled, !last)
  silently (mark ">")
  let isLifetime : Arg → Bool
    | .lifetime _ => true
    | _ => false
  write (Token.angled (entries.map fun (arg, spelled, comma) => (isLifetime arg, spelled, comma)))
  return (entries.map (·.1), entries.getLast?.any fun (_, _, comma) => comma)

/-- A segment of a path. In an expression its arguments follow a double colon. -/
def segment (r : Rules) (bound : Reader Bool) (inExpr : Bool) : Reader SegmentRead := do
  let ts ← rest
  if ["super", "self", "crate", "try"].any (atWord · ts) then
    return ⟨← anyWord, none, []⟩
  let id ← if atWord "Self" ts then anyWord else name
  let ts ← rest
  let colons := atMark "::" ts && atMark "<" (ts.drop 2)
  if (!inExpr && atMark "<" ts && !atMark "<=" ts && !atMark "<<=" ts) || colons then
    let ((args, trailing), spelled) ← noting do
      if colons then mark "::"
      angledArgs r bound
    return ⟨id, some (colons, args, trailing), spelled⟩
  else
    return ⟨id, none, []⟩

/-- More segments, each after a double colon; parentheses after one end the path. -/
def segments (r : Rules) (bound : Reader Bool) (inExpr : Bool) : Reader (List SegmentRead) :=
  repeated do
    let ts ← rest
    if atMark "::" ts && !atGroup .paren (tail (tail ts)) then
      mark "::"
      return some (← segment r bound inExpr)
    else
      return none

/-- A path as it is read: whether a double colon begins it, its segments up to the last, and the
last. -/
structure PathRead where
  leading : Bool
  initial : List SegmentRead
  last : SegmentRead

namespace PathRead

def qualifier (p : PathRead) : Qualifier :=
  ⟨p.leading, p.initial.map fun s => ⟨s.name, s.spelling⟩⟩

def named (p : PathRead) : NamePath :=
  ⟨p.qualifier, p.last.name, p.last.spelling⟩

def ty (p : PathRead) : Ty :=
  match p.last.args with
  | none => .plain p.qualifier p.last.name
  | some (turbofish, args, trailing) => .applied p.qualifier p.last.name turbofish args trailing

end PathRead

def path (r : Rules) (bound : Reader Bool) (inExpr : Bool) : Reader PathRead := do
  let leading ← mark? "::"
  let first ← segment r bound inExpr
  let more ← segments r bound inExpr
  let all := first :: more
  return ⟨leading, all.dropLast, all.getLast?.getD first⟩

def qualifiedPath (r : Rules) (bound : Reader Bool) (inExpr : Bool) :
    Reader (String ⊕ PathRead) := do
  if ← looks (atMark "<") then
    mark "<"
    let _ ← r.type
    if ← word? "as" then
      let _ ← path r bound false
    mark ">"
    mark "::"
    let first ← segment r bound inExpr
    let more ← repeated do
      if ← mark? "::" then return some (← segment r bound inExpr) else return none
    return .inl ((more.getLast?.getD first).name)
  else
    return .inr (← path r bound inExpr)

def modPath : Reader NamePath := do
  let leading ← mark? "::"
  require (← looks atPathWord)
  let first ← anyWord
  let more ← repeated do
    if ← mark? "::" then
      require (← looks atPathWord)
      return some (← anyWord)
    else
      return none
  let all := first :: more
  return ⟨⟨leading, all.dropLast.map (⟨·, []⟩)⟩, all.getLast?.getD first, []⟩

end TypedPreferences.Source.Grammar
