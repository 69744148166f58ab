import TypedPreferences.Fields.Meaning

/-! All fields of a declaration together: their values are read from a store in the order of the
fields, and written one by one. -/

namespace TypedPreferences

/-- A planned field with the value of its default. -/
structure LiveField (F : Type) where
  plan : FieldPlan
  default : Datum F

def LiveField.name {F : Type} (f : LiveField F) : String :=
  f.plan.field.name

abbrev Snapshot (F : Type) := List (String × Datum F)

namespace Snapshot

variable {F : Type}

def value? (s : Snapshot F) (name : String) : Option (Datum F) :=
  s.lookup name

def set (s : Snapshot F) (name : String) (value : Datum F) : Snapshot F :=
  s.map fun e => if e.1 == name then (name, value) else e

def equals (foreignEquals : F → F → Bool) : Snapshot F → Snapshot F → Bool
  | [], [] => true
  | (m, a) :: as, (n, b) :: bs => m == n && a.equals foreignEquals b && equals foreignEquals as bs
  | _, _ => false

end Snapshot

/-- The fields of a declaration, the namespace of its store, and what the names in it stand for. -/
structure Layout (F : Type) where
  id : String
  meaning : Meaning F
  fields : List (LiveField F)

namespace Layout

variable {F : Type} (l : Layout F)

def decodeFields : List (LiveField F) → Shelf → Snapshot F × Shelf
  | [], s => ([], s)
  | f :: rest, s =>
    let (value, s) := l.meaning.decode f.plan f.default s
    let (values, s) := decodeFields rest s
    ((f.name, value) :: values, s)

def decode (s : Shelf) : Snapshot F × Shelf :=
  l.decodeFields l.fields s

def field? (name : String) : Option (LiveField F) :=
  l.fields.find? (·.name == name)

/-- Writes the value of a field; a name that no field has changes nothing. -/
def encode (name : String) (value : Datum F) (s : Shelf) : Shelf :=
  match l.field? name with
  | some f => l.meaning.encode f.plan.field f.plan.encode value s
  | none => s

end Layout

end TypedPreferences
