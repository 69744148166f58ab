import TypedPreferences.Source.Ty
import TypedPreferences.Text.Replace

/-! The identity of a declared type: what is left of a written type when parentheses, one outer
reference and one `Option` are taken off. Two types are the same when their shapes and their
nullability are; how they were written does not count. -/

namespace TypedPreferences

open Source

mutual

/-- A type as it was written, the type inside, its shape, and which modifiers were taken off. -/
inductive TypeRef where
  | mk (written inner : Ty) (shape : Shape) (nullable byRef : Bool)

/-- What a type is apart from its modifiers. -/
inductive Shape where
  -- The last name of a path and its type arguments.
  | named (name : String) (args : List TypeRef)
  -- A run of elements of unknown length.
  | variadic
  -- A type whose declaration cannot be found by its name.
  | unresolved

end

instance : Inhabited Shape := ⟨.unresolved⟩

instance : Inhabited TypeRef := ⟨.mk default default default false false⟩

mutual

/-- Whether two types are the same: their shapes and their nullability. -/
def TypeRef.same : TypeRef → TypeRef → Bool
  | .mk _ _ shape nullable _, .mk _ _ shape' nullable' _ =>
    shape.same shape' && nullable == nullable'

def Shape.same : Shape → Shape → Bool
  | .named name args, .named name' args' => name == name' && sameAll args args'
  | .variadic, .variadic => true
  | .unresolved, .unresolved => true
  | _, _ => false

def sameAll : List TypeRef → List TypeRef → Bool
  | [], [] => true
  | a :: as, b :: bs => a.same b && sameAll as bs
  | _, _ => false

end

/-- The text of tokens as it is shown to a reader: angle marks, commas, inner double colons and
references without blanks. -/
def displayTokens (ts : List Token) : String :=
  String.ofList <| Text.replace "& " "&" <| Text.replace " :: " "::" <| Text.replace " ," "," <|
    Text.replace " >" ">" <|
    Text.replace "< " "<" <| Text.replace " < " "<" (Token.spellAll ts).toList

mutual

/-- The name by which types are compared in messages, nullability apart. -/
def TypeRef.key : TypeRef → String
  | .mk written _ shape _ _ => shape.key written

/-- The name of a shape; one that is not resolved is shown as it was written. -/
def Shape.key (written : Ty) : Shape → String
  | .named name args =>
    if args.isEmpty then name else name ++ "<" ++ ", ".intercalate (displayKeys args) ++ ">"
  | .variadic => "[..]"
  | .unresolved => displayTokens written.tokens

def displayKeys : List TypeRef → List String
  | [] => []
  | t :: rest => t.displayKey :: displayKeys rest

def TypeRef.displayKey : TypeRef → String
  | .mk written _ shape nullable _ =>
    if nullable then "Option<" ++ shape.key written ++ ">" else shape.key written

end

namespace TypeRef

def written : TypeRef → Ty
  | mk written _ _ _ _ => written

def inner : TypeRef → Ty
  | mk _ inner _ _ _ => inner

def shape : TypeRef → Shape
  | mk _ _ shape _ _ => shape

def nullable : TypeRef → Bool
  | mk _ _ _ nullable _ => nullable

def byRef : TypeRef → Bool
  | mk _ _ _ _ byRef => byRef

def name? (t : TypeRef) : Option String :=
  match t.shape with
  | .named name _ => some name
  | _ => none

def args (t : TypeRef) : List TypeRef :=
  match t.shape with
  | .named _ args => args
  | _ => []

def display (t : TypeRef) : String :=
  displayTokens t.written.tokens

def isUnresolved (t : TypeRef) : Bool :=
  match t.shape with
  | .unresolved => true
  | _ => false

def isVariadic (t : TypeRef) : Bool :=
  match t.shape with
  | .variadic => true
  | _ => false

/-- Whether two types differ at most in their modifiers. A type that is not resolved has no partner,
itself included. -/
def sameBase (a b : TypeRef) : Bool :=
  a.shape.same b.shape && !a.isUnresolved

end TypeRef

/-- What a written type shows of itself to the type around it: the type without parentheses, its
shape behind a reference or not, the argument of an `Option`, and the referent of a reference that
has no parentheses around it. -/
inductive View where
  | mk (core : Ty) (shape : Bool → Shape) (payload referent : Option View)

namespace View

def core : View → Ty
  | mk core _ _ _ => core

def shape : View → Bool → Shape
  | mk _ shape _ _ => shape

def payload : View → Option View
  | mk _ _ payload _ => payload

def referent : View → Option View
  | mk _ _ _ referent => referent

def parenthesised : View → View
  | mk core shape payload _ => mk core shape payload none

/-- The identity of a written type. An `Option` inside an `Option` is not resolved. -/
def toRef (written : Ty) (v : View) : TypeRef :=
  let target := v.referent.getD v
  let byRef := v.referent.isSome
  match target.payload with
  | none => .mk written target.core (target.shape byRef) false byRef
  | some inner =>
    let shape := if inner.payload.isSome then .unresolved else inner.shape byRef
    .mk written inner.core shape true byRef

end View

/-- The shape of a path: `Self` is not resolved, and a borrowed `str` counts as `String`. -/
def pathShape (name : String) (args : List TypeRef) (byRef : Bool) : Shape :=
  if name == "Self" then .unresolved
  else if byRef && name == "str" then .named "String" []
  else .named name args

/-- The shape of a slice: a borrowed slice of bytes counts as a vector of bytes. -/
def sliceShape (element : TypeRef) (byRef : Bool) : Shape :=
  if byRef && element.key == "u8" && !element.nullable then .named "Vec" [element] else .variadic

/-- The shape of an array: its name tells its element and its length. -/
def arrayShape (element : TypeRef) (length : List Token) : Shape :=
  .named ("[" ++ element.key ++ "; " ++ displayTokens length ++ "]") []

def single? {α : Type} : List α → Option α
  | [a] => some a
  | _ => none

mutual

def view : Ty → View
  | .plain q name => .mk (.plain q name) (pathShape name []) none none
  | .applied q name turbofish args trailing =>
    let typed := argViews args
    .mk (.applied q name turbofish args trailing)
      (pathShape name (typed.map fun (ty, v) => v.toRef ty))
      (if name == "Option" then (single? typed).map (·.2) else none) none
  | .projection spelling last => .mk (.projection spelling last) (fun _ => .unresolved) none none
  | .reference modifiers referent =>
    .mk (.reference modifiers referent) (fun _ => .unresolved) none (some (view referent))
  | .slice element => .mk (.slice element) (sliceShape ((view element).toRef element)) none none
  | .array element length =>
    .mk (.array element length)
      (fun _ => arrayShape ((view element).toRef element) length) none none
  | .paren inner => (view inner).parenthesised
  | .other spelling => .mk (.other spelling) (fun _ => .unresolved) none none

def argViews : List Arg → List (Ty × View)
  | [] => []
  | .type ty :: rest => (ty, view ty) :: argViews rest
  | .lifetime _ :: rest => argViews rest
  | .other _ :: rest => argViews rest

end

def TypeRef.ofTy (ty : Ty) : TypeRef :=
  (view ty).toRef ty

end TypedPreferences
