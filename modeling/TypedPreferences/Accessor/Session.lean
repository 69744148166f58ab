import TypedPreferences.Accessor.Accessor

/-! Sessions: accessors over one engine, the editors, flows, views and subscriptions made with them,
each numbered from zero, and what is asked of them. -/

namespace TypedPreferences

/-- An accessor of a session until it is dropped, and the object that was shown for it last. -/
structure Held (F : Type) where
  accessor? : Option (Accessor F)
  shown? : Option Nat := none

/-- A session. The flows are those handed out; the hub has others too. -/
structure Session (F : Type) where
  space : Space F := {}
  accessors : List (Held F) := []
  editors : List (Editor F) := []
  flows : List Nat := []

inductive SessionRequest (F : Type) where
  | openAccessor (layout : Layout F) (space : String)
  | put (space key : String) (value : Stored)
  | remove (space key : String)
  | clear (space : String)
  | raw (space key : String)
  | entries (space : String)
  | namespaces
  | get (accessor : Nat)
  | edit (accessor : Nat) (sets : List (String × Datum F))
  | mutable (accessor : Nat)
  | set (editor : Nat) (field : String) (value : Datum F)
  | read (editor : Nat) (field : String)
  | immutable (editor : Nat)
  | equals (accessor editor : Nat)
  | update (accessor editor : Nat)
  | flow (accessor : Nat)
  | flowValue (accessor flow : Nat)
  | map (accessor : Nat) (field : String)
  | mapValue (view : Nat)
  | subscribe (view : Nat)
  | current (subscription : Nat)
  | changed (subscription : Nat)
  | dropAccessor (accessor : Nat)
  | dropFlow (flow : Nat)
  | dropView (view : Nat)

inductive SessionAnswer (F : Type) where
  | done
  | opened (accessor : Nat) (id : String)
  | entry (value : Option Stored)
  | entries (l : List (String × Stored))
  | names (l : List String)
  -- A snapshot, and whether it is the object shown before.
  | shown (values : Snapshot F) (same : Option Bool)
  | snapshot (values : Snapshot F)
  | editor (number : Nat)
  | value (d : Datum F)
  | flag (b : Bool)
  -- A flow, and the earlier ones that are the same.
  | flow (number : Nat) (same : List Nat)
  | view (number : Nat) (value : Datum F)
  | subscription (number : Nat)
  | notice (n : Notice (Datum F))

namespace Session

variable {F : Type}

def accessor? (s : Session F) (number : Nat) : Option (Accessor F) :=
  s.accessors[number]?.bind (·.accessor?)

def afterUse (s : Session F) (number : Nat) (a : Accessor F) (w : Space F) : Session F :=
  { s with space := w, accessors := s.accessors.modify number ({ · with accessor? := some a }) }

def showObject (s : Session F) (number : Nat) (object : Shared (Snapshot F)) :
    SessionAnswer F × Session F :=
  let before := s.accessors[number]?.bind (·.shown?)
  (.shown object.value (before.map (· == object.serial)),
    { s with accessors := s.accessors.modify number ({ · with shown? := some object.serial }) })

def told : StoreAnswer → SessionAnswer F
  | .entry v => .entry v
  | .entries l => .entries l
  | .names l => .names l
  | _ => .done

def ask (s : Session F) (space : String) (request : StoreRequest) : SessionAnswer F × Session F :=
  let (answer, engine) := s.space.engine.answer space request
  (told answer, { s with space := { s.space with engine } })

def setField? (s : Session F) (editor : Nat) (field : String) (value : Datum F) :
    Option (SessionAnswer F × Session F) := do
  let e ← s.editors[editor]?
  let (e, w) := e.set s.space field value
  return (.value (← e.values.value? field),
    { s with space := w, editors := s.editors.set editor e })

/-- What a session answers, and the session afterwards; none when something is named that is not
there. -/
def answer? (s : Session F) : SessionRequest F → Option (SessionAnswer F × Session F)
  | .openAccessor layout space =>
    let s := { s with space := { s.space with engine := s.space.engine.openNamespace space } }
    some (.opened s.accessors.length layout.id,
      { s with accessors := s.accessors ++ [⟨some { layout, space }, none⟩] })
  | .put space key value => some (s.ask space (.insert key value))
  | .remove space key => some (s.ask space (.remove key))
  | .clear space => some (s.ask space .clear)
  | .raw space key => some (s.ask space (.get key))
  | .entries space => some (s.ask space .dump)
  | .namespaces => some (.names s.space.engine.keys, s)
  | .get number => do
    let (object, a, w) := (← s.accessor? number).get s.space
    return (s.afterUse number a w).showObject number object
  | .edit number sets => do
    let (object, a, w) := (← s.accessor? number).edit s.space sets
    return (s.afterUse number a w).showObject number object
  | .mutable number => do
    let (e, a, w) := (← s.accessor? number).mutable s.space
    return (.editor s.editors.length, { s.afterUse number a w with editors := s.editors ++ [e] })
  | .set editor field value => s.setField? editor field value
  | .read editor field => do return (.value (← (← s.editors[editor]?).values.value? field), s)
  | .immutable editor => do return (.snapshot (← s.editors[editor]?).values, s)
  | .equals number editor => do
    let e ← s.editors[editor]?
    let (object, a, w) := (← s.accessor? number).get s.space
    return (.flag (e.values.equals a.layout.meaning.foreignEquals object.value),
      s.afterUse number a w)
  | .update number editor => do
    let (a, w) := (← s.accessor? number).update s.space (← s.editors[editor]?)
    return (.done, s.afterUse number a w)
  | .flow number => do
    let (flow, a, w) := (← s.accessor? number).stateFlow s.space
    -- The flows given before that are the same one.
    let same := s.flows.zipIdx.filter fun (other, _) => (w.hub.sameFlow? flow other).getD false
    return (.flow s.flows.length (same.map (·.2)),
      { s.afterUse number a w with flows := s.flows ++ [flow] })
  | .flowValue number flow => do
    let object ← s.space.hub.value? (← s.flows[flow]?)
    return s.showObject number object
  | .map number field => do
    let (view, a, w) ← (← s.accessor? number).mapField? s.space field
    return (.view view (← w.hub.viewValue? view), s.afterUse number a w)
  | .mapValue view => do return (.value (← s.space.hub.viewValue? view), s)
  | .subscribe view => do
    let (subscription, hub) ← s.space.hub.subscribeView? view
    return (.subscription subscription, { s with space := { s.space with hub } })
  | .current subscription => do return (.value (← s.space.hub.current? subscription), s)
  | .changed subscription => do
    let (notice, hub) ← s.space.hub.changed? subscription
    return (.notice notice, { s with space := { s.space with hub } })
  | .dropAccessor number => do
    let w := (← s.accessor? number).drop s.space
    let accessors := s.accessors.modify number ({ · with accessor? := none })
    return (.done, { s with space := w, accessors })
  | .dropFlow flow => do
    let hub := s.space.hub.dropFlow (← s.flows[flow]?)
    return (.done, { s with space := { s.space with hub } })
  | .dropView view =>
    let hub := s.space.hub.dropView view
    some (.done, { s with space := { s.space with hub } })

/-- What a session answers to a request, the warnings that the request gave, and the session
afterwards. -/
def respond? (s : Session F) (request : SessionRequest F) :
    Option (SessionAnswer F × List Warning × Session F) := do
  let fresh := { s with space := { s.space with warnings := [] } }
  let (answer, after) ← fresh.answer? request
  return (answer, after.space.warnings, after)

end Session

end TypedPreferences
