import TypedPreferences.Fields.Layout
import TypedPreferences.Flow.Hub
import TypedPreferences.Published.Slot
import TypedPreferences.Store.Engine

/-! Accessors and editors. An accessor reads the store once and then hands out the same snapshot
until an editor's values are published in its place. An editor writes every value through to the
store at once, and keeps a copy of its own. -/

namespace TypedPreferences

/-- What accessors share: the stores, the flows of snapshots, how many objects were made, and the
warnings given. -/
structure Space (F : Type) where
  engine : Engine := SortedMap.empty
  hub : Hub (Shared (Snapshot F)) (Datum F) := {}
  objects : Nat := 0
  warnings : List Warning := []

/-- An accessor: the namespace it reads, the snapshot it published, and the flow it keeps once it
was asked for one. -/
structure Accessor (F : Type) where
  layout : Layout F
  space : String
  slot : Slot (Snapshot F) := {}
  flow? : Option Nat := none

/-- An editor: the namespace it writes to, and its values. -/
structure Editor (F : Type) where
  layout : Layout F
  space : String
  values : Snapshot F

namespace Space

variable {F : Type} (w : Space F)

def shelf (id : String) : Shelf :=
  ⟨w.engine.store id, w.warnings⟩

def putBack (id : String) (s : Shelf) : Space F :=
  { w with engine := w.engine.setStore id s.store, warnings := s.warnings }

def share (values : Snapshot F) : Shared (Snapshot F) × Space F :=
  (⟨w.objects, values⟩, { w with objects := w.objects + 1 })

end Space

/-- Sets the value of a field: it is written to the store, and kept. -/
def Editor.set {F : Type} (e : Editor F) (w : Space F) (field : String) (value : Datum F) :
    Editor F × Space F :=
  ({ e with values := e.values.set field value },
    w.putBack e.space (e.layout.encode field value (w.shelf e.space)))

def Editor.setAll {F : Type} (e : Editor F) (w : Space F) (sets : List (String × Datum F)) :
    Editor F × Space F :=
  sets.foldl (fun (e, w) (field, value) => e.set w field value) (e, w)

namespace Accessor

variable {F : Type}

/-- The published snapshot. The first time, it is read from the store. -/
def get (a : Accessor F) (w : Space F) : Shared (Snapshot F) × Accessor F × Space F :=
  match a.slot.object? with
  | some object => (object, a, w)
  | none =>
    -- Reading may write defaults, so the store is put back.
    let (values, s) := a.layout.decode (w.shelf a.space)
    let (object, w) := (w.putBack a.space s).share values
    (object, { a with slot := a.slot.publish object }, w)

def mutable (a : Accessor F) (w : Space F) : Editor F × Accessor F × Space F :=
  let (object, a, w) := a.get w
  (⟨a.layout, a.space, object.value⟩, a, w)

def update (a : Accessor F) (w : Space F) (e : Editor F) : Accessor F × Space F :=
  -- One object is published and told to the flow: they cannot differ.
  let (object, w) := w.share e.values
  let hub := ((a.flow?.bind fun flow => w.hub.set? flow object)).getD w.hub
  ({ a with slot := a.slot.publish object }, { w with hub })

def edit (a : Accessor F) (w : Space F) (sets : List (String × Datum F)) :
    Shared (Snapshot F) × Accessor F × Space F :=
  let (e, a, w) := a.mutable w
  let (e, w) := e.setAll w sets
  let (a, w) := a.update w e
  a.get w

/-- A new handle to the flow of snapshots. The flow is made when it is asked for first, and the
accessor keeps a handle of its own. -/
def stateFlow (a : Accessor F) (w : Space F) : Nat × Accessor F × Space F :=
  match a.flow?.bind w.hub.cloneFlow? with
  | some (flow, hub) => (flow, a, { w with hub })
  | none =>
    -- The flow begins with the snapshot, which may have to be read first.
    let (object, a, w) := a.get w
    let (kept, hub) := w.hub.create object
    let a := { a with flow? := some kept }
    match hub.cloneFlow? kept with
    | some (flow, hub) => (flow, a, { w with hub })
    | none => (kept, a, { w with hub })

/-- A view of the snapshots through a function. -/
def mapFlow? (a : Accessor F) (w : Space F) (transform : Snapshot F → Datum F) :
    Option (Nat × Accessor F × Space F) := do
  let (flow, a, w) := a.stateFlow w
  let (view, hub) ← w.hub.map? flow fun object => transform object.value
  -- The handle that was needed for the view is not kept.
  return (view, a, { w with hub := hub.dropFlow flow })

def mapField? (a : Accessor F) (w : Space F) (field : String) :
    Option (Nat × Accessor F × Space F) :=
  a.mapFlow? w fun values => (values.value? field).getD .absent

def drop (a : Accessor F) (w : Space F) : Space F :=
  match a.flow? with
  | some flow => { w with hub := w.hub.dropFlow flow }
  | none => w

end Accessor

end TypedPreferences
