import TypedPreferences.Store.Stored

/-! Stores by namespace. A namespace is created when it is opened. -/

namespace TypedPreferences

abbrev Engine := SortedMap Store

namespace Engine

def openNamespace (e : Engine) (id : String) : Engine :=
  if e.contains id then e else e.insert id SortedMap.empty

def store (e : Engine) (id : String) : Store :=
  (e.get? id).getD SortedMap.empty

def setStore (e : Engine) (id : String) (s : Store) : Engine :=
  e.insert id s

end Engine

/-- What is asked of the store of a namespace. -/
inductive StoreRequest where
  | read (kind : Primitive) (key : String) (fallback : kind.Value)
  | readOptional (kind : Primitive) (key : String)
  | write (kind : Primitive) (key : String) (value : kind.Value)
  | writeOptional (kind : Primitive) (key : String) (value : Option kind.Value)
  | containsKey (key : String)
  | remove (key : String)
  | keys
  | get (key : String)
  | insert (key : String) (value : Stored)
  | size
  | isEmpty
  | clear
  | dump
  | namespaces
  | sameStore (other : String)

inductive StoreAnswer where
  | done
  | value (v : Stored)
  | optional (v : Option Stored)
  | entry (v : Option Stored)
  | flag (b : Bool)
  | count (n : Nat)
  | names (l : List String)
  | entries (l : List (String × Stored))

def Store.answer (s : Store) : StoreRequest → StoreAnswer × Store
  | .read kind key fallback => (.value ⟨kind, Store.read s kind key fallback⟩, s)
  | .readOptional kind key => (.optional ((Store.read? s kind key).map (⟨kind, ·⟩)), s)
  | .write kind key value => (.done, Store.write s kind key value)
  | .writeOptional kind key value => (.done, Store.writeOptional s kind key value)
  | .containsKey key => (.flag (s.contains key), s)
  | .remove key => (.done, s.erase key)
  | .keys => (.names s.keys, s)
  | .get key => (.entry (s.get? key), s)
  | .insert key value => (.done, SortedMap.insert s key value)
  | .size => (.count s.size, s)
  | .isEmpty => (.flag (s.size == 0), s)
  | .clear => (.done, SortedMap.empty)
  | .dump => (.entries s.entries, s)
  | .namespaces => (.done, s)
  | .sameStore _ => (.done, s)

/-- What an engine answers to a request for a namespace, which is opened for it, and the engine
afterwards. Two namespaces share a store when they are one. -/
def Engine.answer (e : Engine) (id : String) (request : StoreRequest) : StoreAnswer × Engine :=
  match request with
  | .namespaces => (.names e.keys, e)
  | .sameStore other =>
    (.flag (id == other), Engine.openNamespace (Engine.openNamespace e id) other)
  | request =>
    let opened := Engine.openNamespace e id
    let (answer, s) := Store.answer (Engine.store opened id) request
    (answer, Engine.setStore opened id s)

end TypedPreferences
