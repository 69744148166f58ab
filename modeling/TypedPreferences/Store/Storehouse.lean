import TypedPreferences.Store.Engine

/-! Stores that are handed out. The store of a namespace is made when the namespace is first opened;
every handle of the namespace leads to that one store. -/

namespace TypedPreferences

/-- A namespace is opened for a handle, or a handle is asked. -/
inductive StorehouseUse where
  | openNamespace (id : String)
  | ask (handle : Nat) (request : StoreRequest)

namespace StorehouseUse

/-- The namespaces that are there after a use. -/
def opens : StorehouseUse → List String
  | openNamespace id => [id]
  | ask _ (.sameStore other) => [other]
  | ask _ _ => []

/-- The namespaces of the handles that uses give, in order. -/
def handed (uses : List StorehouseUse) : List String :=
  uses.filterMap fun
    | openNamespace id => some id
    | ask .. => none

/-- Every handle that is asked was given before, when there are `count` handles at first. -/
def Given (count : Nat) : List StorehouseUse → Prop
  | [] => True
  | openNamespace _ :: rest => Given (count + 1) rest
  | ask handle _ :: rest => handle < count ∧ Given count rest

/-- What is asked in uses, and of which namespace, when there are handles of `ids` before them. -/
def asked (ids : List String) : List StorehouseUse → List (String × StoreRequest)
  | [] => []
  | openNamespace id :: rest => asked (ids ++ [id]) rest
  | ask handle request :: rest =>
    match ids[handle]? with
    | some id => (id, request) :: asked ids rest
    | none => asked ids rest

end StorehouseUse

/-- The stores that were made, the number of the store of each namespace, and the handles that were
given: each is the number of a store. -/
structure Storehouse where
  stores : List Store := []
  numbers : SortedMap Nat := SortedMap.empty
  handles : List Nat := []

namespace Storehouse

/-- The store with a number. -/
def store (h : Storehouse) (n : Nat) : Store :=
  h.stores[n]?.getD SortedMap.empty

/-- A new store is made for a namespace. -/
def made (h : Storehouse) (id : String) : Storehouse :=
  { h with
    stores := h.stores ++ [SortedMap.empty]
    numbers := h.numbers.insert id h.stores.length }

/-- The number of the store of a namespace, which is made when there is none. -/
def opened (h : Storehouse) (id : String) : Nat × Storehouse :=
  match h.numbers.get? id with
  | some n => (n, h)
  | none => (h.stores.length, h.made id)

/-- The store with a number becomes another one. -/
def replaced (h : Storehouse) (n : Nat) (s : Store) : Storehouse :=
  { h with stores := h.stores.set n s }

/-- What a handle answers, and what is there afterwards; none when the handle or its store is not
there. Two namespaces share a store when their numbers are the same. -/
def answer? (h : Storehouse) (handle : Nat) (request : StoreRequest) :
    Option (StoreAnswer × Storehouse) := do
  let n ← h.handles[handle]?
  let s ← h.stores[n]?
  match request with
  | .namespaces => return (.names h.numbers.keys, h)
  | .sameStore other =>
    let (m, h) := h.opened other
    return (.flag (n == m), h)
  | request =>
    let (answer, s) := Store.answer s request
    return (answer, h.replaced n s)

def use? (h : Storehouse) : StorehouseUse → Option Storehouse
  | .openNamespace id =>
    let (n, h) := h.opened id
    some { h with handles := h.handles ++ [n] }
  | .ask handle request => (h.answer? handle request).map (·.2)

def run? (h : Storehouse) : List StorehouseUse → Option Storehouse
  | [] => some h
  | u :: rest => do (← h.use? u).run? rest

/-- The store of each namespace. -/
def engine (h : Storehouse) : Engine where
  entries := h.numbers.entries.map fun e => (e.1, h.store e.2)
  ascending := List.pairwise_map.2 h.numbers.ascending

end Storehouse

end TypedPreferences
