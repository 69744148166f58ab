import TypedPreferences.Declared.Primitive
import TypedPreferences.Text.Snake

/-! Declarations of preferences: a structure whose fields are the preferences. -/

namespace TypedPreferences

open Source

/-- A field of a declaration: its name, its type, the tokens of its default, and whether the default
is written to the store when the entry is missing. -/
structure Field where
  name : String
  type : TypeRef
  default : Option (List Token)
  persistDefault : Bool
deriving Inhabited

/-- A declaration: its name, the namespace of its store, the module that holds it, and its fields.
-/
structure Declaration where
  name : String
  id : String
  module : List String
  fields : List Field
deriving Inhabited

/-- The name of the file for a declaration of a given name, without its ending. -/
def fileStem (declaration : String) : String :=
  Text.snake declaration ++ "_preferences"

end TypedPreferences
