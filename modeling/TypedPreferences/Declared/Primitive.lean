import TypedPreferences.Declared.TypeRef

/-! The eight kinds of values that a store holds, and which types are stored as one of them. -/

namespace TypedPreferences

inductive Primitive where
  | boolean
  | integer
  | long
  | float
  | double
  | byteSequence
  | text
  | textSet
deriving DecidableEq, Repr, Inhabited

namespace Primitive

def all : List Primitive := [boolean, integer, long, float, double, byteSequence, text, textSet]

def name : Primitive → String
  | boolean => "Boolean"
  | integer => "Integer"
  | long => "Long"
  | float => "Float"
  | double => "Double"
  | byteSequence => "ByteSequence"
  | text => "Text"
  | textSet => "TextSet"

def ofName? (name : String) : Option Primitive :=
  all.find? (·.name == name)

def suffix : Primitive → String
  | boolean => "bool"
  | integer => "int"
  | long => "long"
  | float => "float"
  | double => "double"
  | byteSequence => "bytes"
  | text => "string"
  | textSet => "string_set"

def ofSuffix? (suffix : String) : Option Primitive :=
  all.find? (·.suffix == suffix)

/-- Kinds for which the store itself tells that an entry is missing. -/
def isExistenceChecked : Primitive → Bool
  | byteSequence | text | textSet => true
  | _ => false

def usesSentinel : Primitive → Bool
  | integer | long | float | double => true
  | _ => false

end Primitive

def TypeRef.primitive? (t : TypeRef) : Option Primitive :=
  match t.shape with
  | .named "bool" [] => some .boolean
  | .named "i32" [] => some .integer
  | .named "i64" [] => some .long
  | .named "f32" [] => some .float
  | .named "f64" [] => some .double
  | .named "String" [] => some .text
  | .named name [element] =>
    if name == "Vec" && !element.nullable && element.key == "u8" then some .byteSequence
    else if (name == "HashSet" || name == "BTreeSet") && !element.nullable &&
        element.key == "String" then
      some .textSet
    else none
  | _ => none

end TypedPreferences
