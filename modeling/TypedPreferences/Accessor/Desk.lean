import TypedPreferences.Accessor.Accessor

/-! Desks: one accessor in use, with the editors, flows and views that were asked of it, in order.
The stores may change behind its back. -/

namespace TypedPreferences

/-- What is done with an accessor and its editors, or with the stores by others. -/
inductive Use (F : Type) where
  | get
  | mutable
  | set (editor : Nat) (field : String) (value : Datum F)
  | update (editor : Nat)
  | edit (sets : List (String × Datum F))
  | stateFlow
  | mapFlow (transform : Snapshot F → Datum F)
  | elsewhere (engine : Engine)

namespace Use

variable {F : Type}

/-- The values that a use sets, first to last. -/
def sets : Use F → List (String × Datum F)
  | set _ field value => [(field, value)]
  | edit sets => sets
  | _ => []

/-- The values that an editor sets in a use. -/
def setsBy (editor : Nat) : Use F → List (String × Datum F)
  | set named field value => if named = editor then [(field, value)] else []
  | _ => []

def publishes : Use F → Bool
  | update _ | edit _ => true
  | _ => false

/-- Whether the accessor is asked for what it shows, and no more. -/
def asks : Use F → Bool
  | get | stateFlow | mapFlow _ => true
  | _ => false

/-- The editor that a use names. -/
def editor? : Use F → Option Nat
  | set editor _ _ | update editor => some editor
  | _ => none

def isElsewhere : Use F → Bool
  | elsewhere _ => true
  | _ => false

end Use

/-- An accessor in use. Views are kept with the functions that they were made for. -/
structure Desk (F : Type) where
  accessor : Accessor F
  space : Space F
  editors : List (Editor F) := []
  flows : List Nat := []
  views : List (Nat × (Snapshot F → Datum F)) := []

namespace Desk

variable {F : Type}

/-- A new accessor of a layout. -/
def opened (l : Layout F) (id : String) (w : Space F) : Desk F :=
  { accessor := { layout := l, space := id }, space := w }

/-- The object that the accessor would give now. -/
def object (d : Desk F) : Shared (Snapshot F) :=
  (d.accessor.get d.space).1

/-- The desk after a use; none when an editor is named that is not there. -/
def use? (d : Desk F) : Use F → Option (Desk F)
  | .get =>
    let (_, accessor, space) := d.accessor.get d.space
    some { d with accessor, space }
  | .mutable =>
    let (e, accessor, space) := d.accessor.mutable d.space
    some { d with accessor, space, editors := d.editors ++ [e] }
  | .set editor field value => do
    let (e, space) := (← d.editors[editor]?).set d.space field value
    return { d with space, editors := d.editors.set editor e }
  | .update editor => do
    let (accessor, space) := d.accessor.update d.space (← d.editors[editor]?)
    return { d with accessor, space }
  | .edit sets =>
    let (_, accessor, space) := d.accessor.edit d.space sets
    some { d with accessor, space }
  | .stateFlow =>
    let (flow, accessor, space) := d.accessor.stateFlow d.space
    some { d with accessor, space, flows := d.flows ++ [flow] }
  | .mapFlow transform => do
    let (view, accessor, space) ← d.accessor.mapFlow? d.space transform
    return { d with accessor, space, views := d.views ++ [(view, transform)] }
  | .elsewhere engine => some { d with space := { d.space with engine } }

def run? (d : Desk F) : List (Use F) → Option (Desk F)
  | [] => some d
  | u :: rest => do (← d.use? u).run? rest

end Desk

end TypedPreferences
