import TypedPreferences.Source.Ty

/-! Items of a declaration source: attributes, generics, fields, functions, implementations and
modules. What no later step looks into is kept as its spelling. -/

namespace TypedPreferences.Source

/-- What an attribute says after its path. -/
inductive AttributeBody where
  | word
  | list (delimiter : Delimiter) (args : List Token)
  | value (spelling : List Token)
deriving Repr, Inhabited

/-- An attribute; an inner one belongs to what encloses it. -/
structure Attribute where
  inner : Bool
  path : NamePath
  body : AttributeBody
deriving Repr, Inhabited

/-- A generic parameter: its attributes, its name, what stands before and after the name, and the
default. -/
structure GenericParam where
  isLifetime : Bool
  attributes : List Token
  lead : List Token
  name : List Token
  bounds : List Token
  default : List Token
  comma : Bool
deriving Repr, Inhabited

namespace GenericParam

def declared (p : GenericParam) : List Token :=
  p.attributes ++ p.lead ++ p.name ++ p.bounds ++ p.default

/-- The parameter as an implementation declares it: without its default. -/
def withoutDefault (p : GenericParam) : List Token :=
  p.attributes ++ p.lead ++ p.name ++ p.bounds

end GenericParam

/-- Generic parameters and the predicates on them. -/
structure Generics where
  params : List GenericParam := []
  predicates : List Token := []
deriving Repr, Inhabited

namespace Generics

/-- A list of parameters in angle marks, each spelled by `spell`; nothing for no parameters. -/
def list (g : Generics) (spell : GenericParam → List Token) : List Token :=
  if g.params.isEmpty then []
  else Token.angled (g.params.map fun p => (p.isLifetime, spell p, p.comma))

def declared (g : Generics) : List Token := g.list GenericParam.declared

def forImplementation (g : Generics) : List Token := g.list GenericParam.withoutDefault

def asArguments (g : Generics) : List Token := g.list GenericParam.name

end Generics

structure NamedField where
  attributes : List Attribute
  name : String
  type : Ty
deriving Inhabited

/-- The fields of a structure or a variant. -/
inductive Fields where
  | named (fields : List NamedField)
  | tuple
  | unit
deriving Inhabited

structure Variant where
  name : String
  fields : Fields
deriving Inhabited

inductive Parameter where
  | receiver
  | typed (type : Ty)
deriving Inhabited

structure Signature where
  name : String
  generics : Generics
  parameters : List Parameter
  output : Option Ty
deriving Inhabited

/-- Who sees an item: those near it, everybody, or those in a stated part of the program. -/
inductive Visibility where
  | inherited
  | everywhere
  | restricted
deriving DecidableEq, Inhabited

inductive Member where
  | function (visibility : Visibility) (signature : Signature)
  | constant (value : List Token)
  | other
deriving Inhabited

structure Implementation where
  generics : Generics
  ofTrait : Bool
  selfType : Ty
  members : List Member
deriving Inhabited

mutual

inductive ItemKind where
  | record (name : String) (generics : Generics) (fields : Fields)
  | enumeration (name : String) (generics : Generics) (variants : List Variant)
  | overlay (name : String) (generics : Generics)
  | implementation (block : Implementation)
  | submodule (name : String) (content : Option (List Item))
  | function (visibility : Visibility) (signature : Signature)
  | other

/-- An item: its attributes, what it declares, and its spelling. -/
inductive Item where
  | mk (attributes : List Attribute) (kind : ItemKind) (spelling : List Token)

end

instance : Inhabited ItemKind := ⟨.other⟩

instance : Inhabited Item := ⟨.mk [] .other []⟩

namespace Item

def attributes : Item → List Attribute
  | mk attributes _ _ => attributes

def kind : Item → ItemKind
  | mk _ kind _ => kind

def spelling : Item → List Token
  | mk _ _ spelling => spelling

end Item

end TypedPreferences.Source
