import TypedPreferences.Proofs.Accessor.FirstRead
import TypedPreferences.Proofs.Accessor.Tasks
import TypedPreferences.Store.Storehouse

/-! Stores that are handed out are the stores of an engine: asking a handle is asking the engine for
the namespace of the handle. Each namespace has one store, and no two share one. -/

namespace TypedPreferences

namespace SortedMap

variable {β : Type} (m : SortedMap β)

theorem keys_ascending : m.keys.Pairwise (· < ·) :=
  List.pairwise_map.2 m.ascending

theorem contains_iff_mem_keys (key : String) : m.contains key = true ↔ key ∈ m.keys := by
  rw [contains, get?, Option.isSome_map, List.find?_isSome, keys, List.mem_map]
  simp only [beq_iff_eq]

theorem mem_keys_iff (key : String) : key ∈ m.keys ↔ ∃ v, m.get? key = some v := by
  rw [← contains_iff_mem_keys, contains, Option.isSome_iff_exists]

theorem mem_keys_insert (key : String) (value : β) (k : String) :
    k ∈ (m.insert key value).keys ↔ k = key ∨ k ∈ m.keys := by
  rw [mem_keys_iff, mem_keys_iff, get?_insert]
  split
  · rename_i hk
    exact iff_of_true ⟨value, rfl⟩ (.inl hk)
  · rename_i hk
    rw [or_iff_right hk]

end SortedMap

/-- Whether a request is one of a store, not of its engine. -/
def StoreRequest.ofStore : StoreRequest → Bool
  | namespaces | sameStore _ => false
  | _ => true

namespace Engine

variable (e : Engine) (id : String)

theorem openNamespace_of_mem (h : id ∈ e.keys) : e.openNamespace id = e :=
  if_pos ((e.contains_iff_mem_keys id).2 h)

theorem mem_keys_openNamespace (k : String) :
    k ∈ (e.openNamespace id).keys ↔ k = id ∨ k ∈ e.keys := by
  unfold openNamespace
  split
  · rename_i hid
    have hmem := (e.contains_iff_mem_keys id).1 hid
    exact ⟨.inr, fun hk => hk.elim (fun hsame => hsame ▸ hmem) (fun hk => hk)⟩
  · exact e.mem_keys_insert id SortedMap.empty k

variable {request : StoreRequest}

/-- A request of a store is answered by the store of the namespace. -/
theorem answer_of_ofStore (h : request.ofStore = true) :
    e.answer id request = ((Store.answer (e.store id) request).1,
      (e.openNamespace id).setStore id (Store.answer (e.store id) request).2) := by
  have hstore : (e.openNamespace id).store id = e.store id := e.store_openNamespace id id
  rw [← hstore]
  cases request with
  | namespaces => cases h
  | sameStore other => cases h
  | _ => rfl

theorem answer_store (request : StoreRequest) (other : String) :
    (e.answer id request).2.store other =
      if other = id then (Store.answer (e.store id) request).2 else e.store other := by
  cases hrequest : request.ofStore with
  | true => rw [answer_of_ofStore e id hrequest, store_setStore, store_openNamespace]
  | false =>
    -- What is asked of the engine opens namespaces at most.
    have hkept : (e.answer id request).2.store other = e.store other ∧
        (Store.answer (e.store id) request).2 = e.store id := by
      cases request with
      | namespaces => exact ⟨rfl, rfl⟩
      | sameStore id' =>
        refine ⟨?_, rfl⟩
        exact (store_openNamespace _ id' other).trans (e.store_openNamespace id other)
      | _ => cases hrequest
    rw [hkept.1, hkept.2]
    split
    · rename_i hsame
      rw [hsame]
    · rfl

end Engine

namespace Storehouse

variable (h : Storehouse)

theorem get?_engine (id : String) : h.engine.get? id = (h.numbers.get? id).map h.store := by
  have hfind : (h.numbers.entries.map fun e => (e.1, h.store e.2)).find? (·.1 == id) =
      (h.numbers.entries.find? (·.1 == id)).map fun e => (e.1, h.store e.2) := List.find?_map
  rw [SortedMap.get?, SortedMap.get?, Option.map_map, engine]
  refine (congrArg (Option.map Prod.snd) hfind).trans ?_
  rw [Option.map_map]
  rfl

theorem keys_engine : h.engine.keys = h.numbers.keys :=
  List.map_map

/-- Handles of these namespaces were given. Each leads to the store of its namespace, which is
there and is the store of no other namespace. -/
structure Sound (h : Storehouse) (ids : List String) : Prop where
  handed : h.handles.map some = ids.map h.numbers.get?
  stands : ∀ {id n}, h.numbers.get? id = some n → n < h.stores.length
  apart : ∀ {id other n}, h.numbers.get? id = some n → h.numbers.get? other = some n → id = other

namespace Sound

variable {h : Storehouse} {ids : List String} {id other : String} {handle : Nat}

theorem number (hsound : h.Sound ids) (hid : ids[handle]? = some id) :
    ∃ n, h.handles[handle]? = some n ∧ h.numbers.get? id = some n := by
  have hget := congrArg (·[handle]?) hsound.handed
  simp only [List.getElem?_map, hid, Option.map_some] at hget
  obtain ⟨n, hn, hsome⟩ := Option.map_eq_some_iff.1 hget
  exact ⟨n, hn, hsome.symm⟩

theorem mem_keys_engine_of_number {n : Nat} (hn : h.numbers.get? id = some n) :
    id ∈ h.engine.keys := by
  rw [keys_engine, SortedMap.mem_keys_iff]
  exact ⟨n, hn⟩

/-- A new store is the store of its namespace only. -/
theorem made (hsound : h.Sound ids) (hid : h.numbers.get? id = none) : (h.made id).Sound ids := by
  have hnumber {k : String} {n : Nat} (hk : (h.made id).numbers.get? k = some n) :
      k = id ∧ n = h.stores.length ∨ h.numbers.get? k = some n := by
    rw [Storehouse.made, SortedMap.get?_insert] at hk
    split at hk
    · exact .inl ⟨‹_›, (Option.some.inj hk).symm⟩
    · exact .inr hk
  refine ⟨?_, ?_, ?_⟩
  · refine hsound.handed.trans (List.map_congr_left fun k hk => ?_)
    -- The namespace was not there, so no handle of it was given.
    have hne : k ≠ id := by
      rintro rfl
      have hnone : none ∈ ids.map h.numbers.get? := hid ▸ List.mem_map_of_mem hk
      rw [← hsound.handed] at hnone
      obtain ⟨n, -, hn⟩ := List.mem_map.1 hnone
      cases hn
    rw [Storehouse.made, SortedMap.get?_insert, if_neg hne]
  · intro k n hk
    have hlength : (h.made id).stores.length = h.stores.length + 1 := List.length_append
    rcases hnumber hk with ⟨-, rfl⟩ | hk
    · omega
    · have hlt := hsound.stands hk
      omega
  · intro k k' n hk hk'
    rcases hnumber hk with ⟨rfl, rfl⟩ | hk
    · rcases hnumber hk' with ⟨rfl, -⟩ | hk'
      · rfl
      · exact absurd (hsound.stands hk') (Nat.lt_irrefl _)
    · rcases hnumber hk' with ⟨-, rfl⟩ | hk'
      · exact absurd (hsound.stands hk) (Nat.lt_irrefl _)
      · exact hsound.apart hk hk'

theorem engine_made (hsound : h.Sound ids) (hid : h.numbers.get? id = none) :
    (h.made id).engine = h.engine.openNamespace id := by
  have hnew : ¬h.engine.contains id = true := by
    rw [SortedMap.contains, get?_engine, hid]
    exact Bool.false_ne_true
  apply SortedMap.ext_get?
  intro k
  rw [get?_engine, Engine.openNamespace, if_neg hnew, SortedMap.get?_insert, get?_engine,
    Storehouse.made, SortedMap.get?_insert]
  split
  · simp [store]
  · cases hk : h.numbers.get? k with
    | none => rfl
    | some n => simp [store, List.getElem?_append_left (hsound.stands hk)]

variable (id) in
/-- Opening gives the number of the store of the namespace, and opens the namespace in the engine. -/
theorem opened (hsound : h.Sound ids) : (h.opened id).2.Sound ids ∧
    (h.opened id).2.handles = h.handles ∧
    (h.opened id).2.numbers.get? id = some (h.opened id).1 ∧
    (h.opened id).2.engine = h.engine.openNamespace id := by
  unfold Storehouse.opened
  cases hid : h.numbers.get? id with
  | some n =>
    have hmem := mem_keys_engine_of_number hid
    exact ⟨hsound, rfl, hid, (Engine.openNamespace_of_mem _ _ hmem).symm⟩
  | none =>
    refine ⟨hsound.made hid, rfl, ?_, hsound.engine_made hid⟩
    exact (SortedMap.get?_insert _ _ _ _).trans (if_pos rfl)

theorem replaced (hsound : h.Sound ids) (n : Nat) (s : Store) : (h.replaced n s).Sound ids := by
  refine ⟨hsound.handed, fun hk => ?_, hsound.apart⟩
  rw [Storehouse.replaced, List.length_set]
  exact hsound.stands hk

theorem engine_replaced (hsound : h.Sound ids) {n : Nat} (hn : h.numbers.get? id = some n)
    (s : Store) : (h.replaced n s).engine = h.engine.setStore id s := by
  have hstands := hsound.stands hn
  apply SortedMap.ext_get?
  intro k
  rw [get?_engine, Engine.setStore, SortedMap.get?_insert, get?_engine]
  split
  · rename_i hk
    simp [Storehouse.replaced, hk, hn, store, hstands]
  · rename_i hk
    cases hk' : h.numbers.get? k with
    | none => simp [Storehouse.replaced, hk']
    | some m =>
      have hne : n ≠ m := fun hsame => hk (hsound.apart hk' (hsame ▸ hn))
      simp [Storehouse.replaced, hk', store, List.getElem?_set_ne hne]

/-- Every handle answers as the engine does for its namespace, and leaves what the engine leaves. -/
theorem answer (hsound : h.Sound ids) (hid : ids[handle]? = some id) (request : StoreRequest) :
    ∃ after, h.answer? handle request = some ((h.engine.answer id request).1, after) ∧
      after.Sound ids ∧ after.engine = (h.engine.answer id request).2 := by
  obtain ⟨n, hhandle, hn⟩ := hsound.number hid
  have hs : h.stores[n]? = some (h.store n) := by
    rw [store, List.getElem?_eq_getElem (hsound.stands hn)]
    rfl
  have hmem := mem_keys_engine_of_number hn
  have hstore : h.engine.store id = h.store n := by
    rw [Engine.store, get?_engine, hn]
    rfl
  cases hrequest : request.ofStore with
  | true =>
    rw [Engine.answer_of_ofStore _ _ hrequest, hstore, Engine.openNamespace_of_mem _ _ hmem]
    refine ⟨_, ?_, hsound.replaced n _, hsound.engine_replaced hn _⟩
    rw [answer?, hhandle, Option.bind_eq_bind, Option.bind_some, hs]
    cases request with
    | namespaces => cases hrequest
    | sameStore other => cases hrequest
    | _ => rfl
  | false =>
    cases request with
    | namespaces =>
      refine ⟨h, ?_, hsound, rfl⟩
      rw [answer?, hhandle, Option.bind_eq_bind, Option.bind_some, hs]
      exact congrArg (fun l => some (StoreAnswer.names l, h)) h.keys_engine.symm
    | sameStore other =>
      obtain ⟨hopened, hhandles, hother, hengine⟩ := hsound.opened other
      obtain ⟨n', hhandle', hn'⟩ := hopened.number hid
      rw [hhandles, hhandle] at hhandle'
      obtain rfl : n = n' := Option.some.inj hhandle'
      -- Two namespaces with one number are one.
      have hsame : (n == (h.opened other).1) = (id == other) := by
        rw [Bool.eq_iff_iff, beq_iff_eq, beq_iff_eq]
        constructor
        · intro heq
          exact hopened.apart hn' (heq ▸ hother)
        · rintro rfl
          exact Option.some.inj (hn'.symm.trans hother)
      refine ⟨(h.opened other).2, ?_, hopened, ?_⟩
      · rw [answer?, hhandle, Option.bind_eq_bind, Option.bind_some, hs]
        exact congrArg (fun b => some (StoreAnswer.flag b, (h.opened other).2)) hsame
      · rw [hengine]
        exact congrArg (Engine.openNamespace · other) (Engine.openNamespace_of_mem _ _ hmem).symm
    | _ => cases hrequest

end Sound

end Storehouse

end TypedPreferences
