/-! Ordinals of an enumeration: its entries are numbered from zero in the order of their
declaration, whatever values they are given. -/

namespace TypedPreferences

/-- The entries of an enumeration, in order. -/
structure Ordinals where
  entries : List String
deriving Repr, Inhabited

namespace Ordinals

def numbered (o : Ordinals) : List (String × Nat) :=
  o.entries.zipIdx

def ordinal? (o : Ordinals) (entry : String) : Option Nat :=
  o.numbered.lookup entry

def ofOrdinal? (o : Ordinals) (ordinal : Int) : Option String :=
  (o.numbered.find? fun e => (e.2 : Int) == ordinal).map (·.1)

end Ordinals

end TypedPreferences
