import TypedPreferences.Accessor.Accessor

/-! Offices: accessors of several declarations over one engine. Each declaration has a bench, where
its accessors, its editors and its flows are kept, in the order in which they were made, and the
objects that were shown. All benches share one space. -/

namespace TypedPreferences

/-- What is done at the bench of a declaration. Accessors, editors and flows are named by their
places at this bench. -/
inductive Task (F : Type) where
  | openAccessor
  | get (accessor : Nat)
  | mutable (accessor : Nat)
  | set (editor : Nat) (field : String) (value : Datum F)
  | update (accessor editor : Nat)
  | stateFlow (accessor : Nat)
  | flowValue (flow : Nat)

/-- The values that a task sets. -/
def Task.sets {F : Type} : Task F → List (String × Datum F)
  | set _ field value => [(field, value)]
  | _ => []

structure Bench (F : Type) where
  accessors : List (Accessor F) := []
  editors : List (Editor F) := []
  flows : List Nat := []
  shown : List (Shared (Snapshot F)) := []

/-- The bench of a declaration and the space after a task; none when something is named that is not
there. -/
def Bench.use? {F : Type} (l : Layout F) (id : String) (b : Bench F) (w : Space F) :
    Task F → Option (Bench F × Space F)
  | .openAccessor =>
    some ({ b with accessors := b.accessors ++ [{ layout := l, space := id }] },
      { w with engine := w.engine.openNamespace id })
  | .get accessor => do
    let (object, a, w) := (← b.accessors[accessor]?).get w
    return ({ b with
      accessors := b.accessors.set accessor a
      shown := b.shown ++ [object] }, w)
  | .mutable accessor => do
    let (e, a, w) := (← b.accessors[accessor]?).mutable w
    return ({ b with
      accessors := b.accessors.set accessor a
      editors := b.editors ++ [e] }, w)
  | .set editor field value => do
    let (e, w) := (← b.editors[editor]?).set w field value
    return ({ b with editors := b.editors.set editor e }, w)
  | .update accessor editor => do
    let (a, w) := (← b.accessors[accessor]?).update w (← b.editors[editor]?)
    return ({ b with accessors := b.accessors.set accessor a }, w)
  | .stateFlow accessor => do
    let (flow, a, w) := (← b.accessors[accessor]?).stateFlow w
    return ({ b with
      accessors := b.accessors.set accessor a
      flows := b.flows ++ [flow] }, w)
  | .flowValue flow => do
    let object ← w.hub.value? (← b.flows[flow]?)
    return ({ b with shown := b.shown ++ [object] }, w)

structure Office (F : Type) where
  space : Space F
  bench : String → Bench F := fun _ => {}

namespace Office

variable {F : Type}

/-- The office after a task at the bench of a declaration. Each declaration has its own layout, and
its accessors are opened in the namespace of its name. -/
def use? (layouts : String → Layout F) (o : Office F) (id : String) (task : Task F) :
    Option (Office F) := do
  let (b, w) ← (o.bench id).use? (layouts id) id o.space task
  return ⟨w, fun other => if other = id then b else o.bench other⟩

/-- The office after tasks at several benches, one after another. -/
def run? (layouts : String → Layout F) (o : Office F) : List (String × Task F) → Option (Office F)
  | [] => some o
  | (id, task) :: rest => do (← o.use? layouts id task).run? layouts rest

end Office

end TypedPreferences
