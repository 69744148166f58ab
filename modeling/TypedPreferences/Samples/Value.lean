import TypedPreferences.Fields.Datum
import TypedPreferences.Samples.Converters

/-! Values of the types that only the samples' converter functions know, and functions on them as
functions on values of fields. -/

namespace TypedPreferences.Samples

/-- A value that only converter functions know. -/
inductive Foreign where
  | date (d : Date)
  | color (bits : UInt32)
  | power (p : Power)
  | levels (s : LevelSet)
  | ints (l : List Int32)
  -- A value in a type of its own that wraps its stored form.
  | wrapped (s : Stored)

/-- Whether two values are equal; floating-point numbers as numbers. -/
def Foreign.equals : Foreign → Foreign → Bool
  | date a, date b => a == b
  | color a, color b => a == b
  | power a, power b => a == b
  | levels a, levels b => a == b
  | ints a, ints b => a == b
  | wrapped a, wrapped b => a.equals b
  | _, _ => false

/-- How the values of a type stand among the values of fields. -/
structure Carrier (α : Type) where
  give : α → Datum Foreign
  take? : Datum Foreign → Option α

namespace Carrier

def stored (kind : Primitive) : Carrier kind.Value :=
  ⟨fun v => .stored ⟨kind, v⟩, fun d => d.as? kind⟩

def wrapped (kind : Primitive) : Carrier kind.Value where
  give v := .foreign (.wrapped ⟨kind, v⟩)
  take?
    | .foreign (.wrapped s) => s.as? kind
    | _ => none

def date : Carrier Date where
  give d := .foreign (.date d)
  take?
    | .foreign (.date d) => some d
    | _ => none

def color : Carrier UInt32 where
  give c := .foreign (.color c)
  take?
    | .foreign (.color c) => some c
    | _ => none

def power : Carrier Power where
  give p := .foreign (.power p)
  take?
    | .foreign (.power p) => some p
    | _ => none

def levels : Carrier LevelSet where
  give s := .foreign (.levels s)
  take?
    | .foreign (.levels s) => some s
    | _ => none

def ints : Carrier (List Int32) where
  give l := .foreign (.ints l)
  take?
    | .foreign (.ints l) => some l
    | _ => none

def option {α : Type} (c : Carrier α) : Carrier (Option α) where
  give := .ofOption c.give
  take?
    | .absent => some none
    | .present d => (c.take? d).map some
    | _ => none

/-- A function as one on values of fields; a value that does not fit stays. -/
def function {α β : Type} (a : Carrier α) (b : Carrier β) (f : α → β) (d : Datum Foreign) :
    Datum Foreign :=
  match a.take? d with
  | some x => b.give (f x)
  | none => d

end Carrier

end TypedPreferences.Samples
