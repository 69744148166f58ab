import TypedPreferences.Proofs.Fields.Written
import TypedPreferences.Proofs.Store.SharedStores

/-! A store remembers the last value that was written under each key, and nothing else. Which value
that is follows from the requests of its namespace alone, in their order; it does not matter through
which handles they were made. -/

namespace TypedPreferences

namespace StoreRequest

/-- The request puts a value under a key. -/
inductive Puts : StoreRequest → String → Stored → Prop
  | write (kind : Primitive) (key : String) (value : kind.Value) :
    Puts (.write kind key value) key ⟨kind, value⟩
  | present (kind : Primitive) (key : String) (value : kind.Value) :
    Puts (.writeOptional kind key (some value)) key ⟨kind, value⟩
  | insert (key : String) (value : Stored) : Puts (.insert key value) key value

/-- The request leaves nothing under a key. -/
inductive Drops : StoreRequest → String → Prop
  | remove (key : String) : Drops (.remove key) key
  | absent (kind : Primitive) (key : String) : Drops (.writeOptional kind key none) key
  | clear (key : String) : Drops .clear key

/-- What stands under a key after the request does not depend on what stood there before. -/
def Settles (request : StoreRequest) (key : String) : Prop :=
  (∃ v, request.Puts key v) ∨ request.Drops key

variable {request : StoreRequest} {key : String} {v : Stored} (s : Store)

theorem Puts.get?_answer (h : request.Puts key v) : (Store.answer s request).2.get? key = some v := by
  cases h with
  | write kind key value => exact (Store.get?_write s kind key value key).trans (if_pos rfl)
  | present kind key value =>
    exact (Store.get?_writeOptional s kind key (some value) key).trans (if_pos rfl)
  | insert => exact (SortedMap.get?_insert s key key v).trans (if_pos rfl)

theorem Drops.get?_answer (h : request.Drops key) : (Store.answer s request).2.get? key = none := by
  cases h with
  | remove key => exact (SortedMap.get?_erase s key key).trans (if_pos rfl)
  | absent kind key => exact (Store.get?_writeOptional s kind key none key).trans (if_pos rfl)
  | clear key => rfl

theorem get?_answer_of_not_settles (h : ¬request.Settles key) :
    (Store.answer s request).2.get? key = s.get? key := by
  -- Each request that writes settles the key it writes, so `key` is another one.
  cases request with
  | write kind k value =>
    have hne : key ≠ k := by
      rintro rfl
      exact h (.inl ⟨_, .write kind key value⟩)
    exact (Store.get?_write s kind k value key).trans (if_neg hne)
  | writeOptional kind k value =>
    have hne : key ≠ k := by
      rintro rfl
      cases value with
      | none => exact h (.inr (.absent kind key))
      | some value => exact h (.inl ⟨_, .present kind key value⟩)
    exact (Store.get?_writeOptional s kind k value key).trans (if_neg hne)
  | remove k =>
    have hne : key ≠ k := by
      rintro rfl
      exact h (.inr (.remove key))
    exact (SortedMap.get?_erase s k key).trans (if_neg hne)
  | insert k value =>
    have hne : key ≠ k := by
      rintro rfl
      exact h (.inl ⟨_, .insert key value⟩)
    exact (SortedMap.get?_insert s k key value).trans (if_neg hne)
  | clear => exact absurd (.inr (.clear key)) h
  | _ => rfl

/-- What stands under a key after a request was put there by it, or stood there before. -/
theorem get?_answer_iff : (Store.answer s request).2.get? key = some v ↔
    request.Puts key v ∨ ¬request.Settles key ∧ s.get? key = some v := by
  by_cases hsettles : request.Settles key
  · rw [or_iff_left fun hbefore => hbefore.1 hsettles]
    rcases hsettles with ⟨w, hputs⟩ | hdrops
    · rw [hputs.get?_answer s]
      constructor
      · intro hsame
        exact Option.some.inj hsame ▸ hputs
      · intro hputs'
        exact (hputs.get?_answer s).symm.trans (hputs'.get?_answer s)
    · rw [hdrops.get?_answer s]
      refine iff_of_false nofun fun hputs => ?_
      cases (hdrops.get?_answer s).symm.trans (hputs.get?_answer s)
  · have hputs : ¬request.Puts key v := fun hputs => hsettles (.inl ⟨v, hputs⟩)
    rw [get?_answer_of_not_settles s hsettles, or_iff_right hputs, and_iff_right hsettles]

end StoreRequest

/-- The last request of a namespace that settles a key puts a value under it. -/
def Holds (log : List (String × StoreRequest)) (id key : String) (v : Stored) : Prop :=
  ∃ before request after, log = before ++ (id, request) :: after ∧ request.Puts key v ∧
    ∀ later, (id, later) ∈ after → ¬later.Settles key

theorem not_holds_nil (id key : String) (v : Stored) : ¬Holds [] id key v := by
  rintro ⟨before, request, after, hlog, -, -⟩
  cases List.append_eq_nil_iff.1 hlog.symm |>.2

theorem holds_concat (log : List (String × StoreRequest)) (id' : String) (last : StoreRequest)
    (id key : String) (v : Stored) : Holds (log ++ [(id', last)]) id key v ↔
      id' = id ∧ last.Puts key v ∨ ¬(id' = id ∧ last.Settles key) ∧ Holds log id key v := by
  constructor
  · rintro ⟨before, request, after, hlog, hputs, hlater⟩
    -- The request that puts the value is the last one, or the last one comes later.
    rcases List.eq_nil_or_concat after with rfl | ⟨after, e, rfl⟩
    · obtain ⟨-, he⟩ := List.append_inj' hlog rfl
      obtain ⟨rfl, rfl⟩ := Prod.mk.inj (List.singleton_inj.1 he)
      exact .inl ⟨rfl, hputs⟩
    · rw [List.concat_eq_append] at hlog hlater
      have hsplit : before ++ (id, request) :: (after ++ [e]) =
          before ++ (id, request) :: after ++ [e] := by
        rw [List.append_assoc, List.cons_append]
      obtain ⟨hrest, he⟩ := List.append_inj' (hlog.trans hsplit) rfl
      obtain rfl := List.singleton_inj.1 he
      refine .inr ⟨?_, before, request, after, hrest, hputs, fun later hmem => ?_⟩
      · rintro ⟨rfl, hsettles⟩
        exact hlater last (List.mem_append_right _ List.mem_cons_self) hsettles
      · exact hlater later (List.mem_append_left _ hmem)
  · rintro (⟨rfl, hputs⟩ | ⟨hnot, before, request, after, rfl, hputs, hlater⟩)
    · exact ⟨log, last, [], rfl, hputs, nofun⟩
    · refine ⟨before, request, after ++ [(id', last)], List.append_assoc _ _ _, hputs, ?_⟩
      intro later hmem hsettles
      rcases List.mem_append.1 hmem with hmem | hmem
      · exact hlater later hmem hsettles
      · obtain ⟨rfl, rfl⟩ := Prod.mk.inj (List.mem_singleton.1 hmem)
        exact hnot ⟨rfl, hsettles⟩

theorem Engine.mem_keys_answer (e : Engine) {id : String} (hid : id ∈ e.keys) (handle : Nat)
    (request : StoreRequest) (k : String) : k ∈ (e.answer id request).2.keys ↔
      k ∈ e.keys ∨ k ∈ (StorehouseUse.ask handle request).opens := by
  cases hrequest : request.ofStore with
  | true =>
    have hopens : (StorehouseUse.ask handle request).opens = [] := by
      cases request with
      | sameStore other => cases hrequest
      | _ => rfl
    rw [e.answer_of_ofStore id hrequest, setStore, SortedMap.mem_keys_insert,
      e.openNamespace_of_mem id hid, hopens, or_iff_left List.not_mem_nil]
    exact ⟨fun hk => hk.elim (fun hsame => hsame ▸ hid) (fun hk => hk), .inr⟩
  | false =>
    cases request with
    | namespaces => simp [answer, StorehouseUse.opens]
    | sameStore other =>
      have hopened : (e.answer id (.sameStore other)).2 = e.openNamespace other :=
        congrArg (Engine.openNamespace · other) (e.openNamespace_of_mem id hid)
      rw [hopened, mem_keys_openNamespace, or_comm]
      exact or_congr_right List.mem_singleton.symm
    | _ => cases hrequest

namespace Storehouse

/-- What is there when handles of `ids` were given, the namespaces in `spaces` were opened, and
`log` was asked: each store holds its last writes. -/
structure Recorded (h : Storehouse) (ids spaces : List String)
    (log : List (String × StoreRequest)) : Prop where
  sound : h.Sound ids
  spaces : ∀ id, id ∈ h.engine.keys ↔ id ∈ spaces
  holds : ∀ id key v, (h.engine.store id).get? key = some v ↔ Holds log id key v

namespace Recorded

variable {h : Storehouse} {ids spaces : List String} {log : List (String × StoreRequest)}

theorem empty : Recorded {} [] [] [] where
  sound := ⟨rfl, nofun, nofun⟩
  spaces := fun _ => Iff.rfl
  holds := fun id key v => iff_of_false nofun (not_holds_nil id key v)

theorem openNamespace (hr : h.Recorded ids spaces log) (id : String) :
    ∃ after, h.use? (.openNamespace id) = some after ∧
      after.Recorded (ids ++ [id]) (spaces ++ [id]) log := by
  obtain ⟨hsound, hhandles, hnumber, hengine⟩ := hr.sound.opened id
  refine ⟨{ (h.opened id).2 with handles := (h.opened id).2.handles ++ [(h.opened id).1] }, rfl,
    ⟨?_, hsound.stands, hsound.apart⟩, ?_, ?_⟩
  · rw [List.map_append, List.map_append, hsound.handed, List.map_singleton, List.map_singleton,
      hnumber]
  · intro k
    have hkeys := (congrArg (k ∈ SortedMap.keys ·) hengine).to_iff
    refine hkeys.trans ?_
    rw [Engine.mem_keys_openNamespace, hr.spaces, List.mem_append, List.mem_singleton, or_comm]
  · intro k key v
    have hstore : (h.opened id).2.engine.store k = h.engine.store k := by
      rw [hengine, Engine.store_openNamespace]
    refine Iff.trans ?_ (hr.holds k key v)
    rw [← hstore]
    rfl

theorem ask (hr : h.Recorded ids spaces log) {handle : Nat} {id : String}
    (hid : ids[handle]? = some id) (request : StoreRequest) :
    ∃ after, h.use? (.ask handle request) = some after ∧
      after.Recorded ids (spaces ++ (StorehouseUse.ask handle request).opens)
        (log ++ [(id, request)]) := by
  obtain ⟨n, -, hn⟩ := hr.sound.number hid
  have hmem := Sound.mem_keys_engine_of_number hn
  obtain ⟨after, hanswer, hsound, hengine⟩ := hr.sound.answer hid request
  refine ⟨after, congrArg (Option.map Prod.snd) hanswer, hsound, ?_, ?_⟩
  · intro k
    rw [hengine, h.engine.mem_keys_answer hmem handle, hr.spaces, List.mem_append]
  · intro k key v
    rw [hengine, Engine.answer_store, holds_concat, ← hr.holds]
    split
    · rename_i hk
      rw [StoreRequest.get?_answer_iff, hk]
      simp only [true_and]
    · rename_i hk
      have hk' : ¬id = k := fun hsame => hk hsame.symm
      simp only [hk', false_and, not_false_eq_true, true_and, false_or]

/-- Uses that ask only handles that were given leave stores that hold their last writes. -/
theorem run? (hr : h.Recorded ids spaces log) {uses : List StorehouseUse}
    (hgiven : StorehouseUse.Given ids.length uses) :
    ∃ after, h.run? uses = some after ∧
      after.Recorded (ids ++ StorehouseUse.handed uses)
        (spaces ++ uses.flatMap StorehouseUse.opens) (log ++ StorehouseUse.asked ids uses) := by
  -- By induction on the uses; the handles that are given grow with each namespace that is opened.
  induction uses generalizing h ids spaces log with
  | nil =>
    refine ⟨h, rfl, ?_⟩
    simpa [StorehouseUse.handed, StorehouseUse.asked] using hr
  | cons u rest ih =>
    cases u with
    | openNamespace id =>
      obtain ⟨next, hnext, hr⟩ := hr.openNamespace id
      have hcount : (ids ++ [id]).length = ids.length + 1 := List.length_append
      obtain ⟨after, hafter, hr⟩ := ih hr (hcount ▸ hgiven)
      refine ⟨after, ?_, ?_⟩
      · rw [Storehouse.run?, hnext]
        exact hafter
      · rw [List.append_assoc, List.append_assoc] at hr
        exact hr
    | ask handle request =>
      obtain ⟨hlt, hgiven⟩ := hgiven
      have hid : ids[handle]? = some ids[handle] := List.getElem?_eq_getElem hlt
      obtain ⟨next, hnext, hr⟩ := hr.ask hid request
      obtain ⟨after, hafter, hr⟩ := ih hr hgiven
      refine ⟨after, ?_, ?_⟩
      · rw [Storehouse.run?, hnext]
        exact hafter
      · have hasked : StorehouseUse.asked ids (.ask handle request :: rest) =
            (ids[handle], request) :: StorehouseUse.asked ids rest := by
          rw [StorehouseUse.asked, hid]
        rw [hasked, List.flatMap_cons, ← List.append_assoc spaces]
        rw [List.append_assoc log] at hr
        exact hr

end Recorded

end Storehouse

/-- A namespace answers with the values that `log` says it holds. -/
structure Remembers (log : List (String × StoreRequest)) (id : String)
    (answer : StoreRequest → StoreAnswer) : Prop where
  read : ∀ {kind key value}, Holds log id key ⟨kind, value⟩ → ∀ fallback,
    answer (.read kind key fallback) = .value ⟨kind, value⟩
  readOptional : ∀ {kind key value}, Holds log id key ⟨kind, value⟩ →
    answer (.readOptional kind key) = .optional (some ⟨kind, value⟩)
  read_fallback : ∀ {kind key}, (∀ value, ¬Holds log id key ⟨kind, value⟩) → ∀ fallback,
    answer (.read kind key fallback) = .value ⟨kind, fallback⟩
  readOptional_none : ∀ {kind key}, (∀ value, ¬Holds log id key ⟨kind, value⟩) →
    answer (.readOptional kind key) = .optional none
  keys : ∃ names : List String, names.Pairwise (· < ·) ∧
    (∀ key, key ∈ names ↔ ∃ v, Holds log id key v) ∧
    answer .keys = .names names ∧ answer .size = .count names.length ∧
    answer .isEmpty = .flag names.isEmpty ∧
    ∀ key, answer (.containsKey key) = .flag (decide (key ∈ names))

theorem remembers_of_holds {e : Engine} {id : String} {log : List (String × StoreRequest)}
    (hholds : ∀ key v, (e.store id).get? key = some v ↔ Holds log id key v) :
    Remembers log id fun request => (e.answer id request).1 := by
  -- Each answer is one of the store alone, and a store tells what was written last.
  have hanswer {request : StoreRequest} (h : request.ofStore = true) :
      (e.answer id request).1 = (Store.answer (e.store id) request).1 := by
    rw [e.answer_of_ofStore id h]
  have hread {kind : Primitive} {key : String} {value : kind.Value}
      (h : Holds log id key ⟨kind, value⟩) : Store.read? (e.store id) kind key = some value :=
    (Store.read?_eq_some_iff _ _ _ _).2 ((hholds _ _).2 h)
  have hnone {kind : Primitive} {key : String} (h : ∀ value, ¬Holds log id key ⟨kind, value⟩) :
      Store.read? (e.store id) kind key = none := by
    apply Option.eq_none_iff_forall_ne_some.2
    intro value hvalue
    exact h value ((hholds _ _).1 ((Store.read?_eq_some_iff _ _ _ _).1 hvalue))
  have hmem (key : String) : key ∈ (e.store id).keys ↔ ∃ v, Holds log id key v := by
    rw [SortedMap.mem_keys_iff]
    exact exists_congr fun v => hholds key v
  refine ⟨fun h fallback => ?_, fun h => ?_, fun h fallback => ?_, fun h => ?_,
    (e.store id).keys, (e.store id).keys_ascending, hmem, hanswer rfl, ?_, ?_, fun key => ?_⟩
  · rw [hanswer rfl, Store.answer, Store.read, hread h]
    rfl
  · rw [hanswer rfl, Store.answer, hread h]
    rfl
  · rw [hanswer rfl, Store.answer, Store.read, hnone h]
    rfl
  · rw [hanswer rfl, Store.answer, hnone h]
    rfl
  · rw [hanswer rfl, Store.answer, SortedMap.size, SortedMap.keys, List.length_map]
  · rw [hanswer rfl, Store.answer, SortedMap.size, SortedMap.keys, List.isEmpty_map]
    cases (e.store id).entries <;> rfl
  · have hcontains : (e.store id).contains key = decide (key ∈ (e.store id).keys) := by
      rw [Bool.eq_iff_iff, decide_eq_true_iff, SortedMap.contains_iff_mem_keys]
    rw [hanswer rfl, Store.answer, hcontains]

/-- Stores that are handed out are a map from namespaces and keys to the values that were written
last. Each handle answers as its namespace does, whatever handles the values were written through;
it changes no other namespace; and the namespaces are those that were opened. -/
theorem handles_remember_last_writes {uses : List StorehouseUse}
    (hgiven : StorehouseUse.Given 0 uses) :
    ∃ h, Storehouse.run? {} uses = some h ∧
      (∀ (handle : Nat) id, (StorehouseUse.handed uses)[handle]? = some id →
        (∀ request, ∃ after,
          h.answer? handle request = some ((h.engine.answer id request).1, after) ∧
          after.engine = (h.engine.answer id request).2 ∧
          ∀ other, other ≠ id → after.engine.store other = h.engine.store other) ∧
        Remembers (StorehouseUse.asked [] uses) id fun request => (h.engine.answer id request).1) ∧
      ∃ spaces : List String, spaces.Pairwise (· < ·) ∧
        (∀ space, space ∈ spaces ↔ ∃ u ∈ uses, space ∈ u.opens) ∧
        ∀ id, h.engine.answer id .namespaces = (.names spaces, h.engine) := by
  obtain ⟨h, hrun, hr⟩ := Storehouse.Recorded.empty.run? hgiven
  simp only [List.nil_append] at hr
  refine ⟨h, hrun, fun handle id hid => ⟨fun request => ?_, ?_⟩, h.engine.keys,
    h.engine.keys_ascending, fun space => ?_, fun id => rfl⟩
  · obtain ⟨after, hanswer, -, hengine⟩ := hr.sound.answer hid request
    refine ⟨after, hanswer, hengine, fun other hother => ?_⟩
    rw [hengine, Engine.answer_store, if_neg hother]
  · exact remembers_of_holds (hr.holds id)
  · rw [hr.spaces, List.mem_flatMap]

/-- Two handles of one namespace, and one of another that is cleared. -/
def sharedUses : List StorehouseUse :=
  [.openNamespace "app", .openNamespace "app", .openNamespace "other",
    .ask 0 (.write .integer "key" (3 : Int32)), .ask 2 (.write .boolean "key" true),
    .ask 1 (.writeOptional .text "key" (some "x")), .ask 2 .clear]

/-- What is written through one handle is read through another. -/
theorem sharedUses_remembered : StorehouseUse.Given 0 sharedUses ∧
    ∃ h after, Storehouse.run? {} sharedUses = some h ∧
      h.answer? 0 (.readOptional .text "key") = some (.optional (some ⟨.text, "x"⟩), after) ∧
      "other" ∈ h.engine.keys := by
  have hgiven : StorehouseUse.Given 0 sharedUses := by simp [sharedUses, StorehouseUse.Given]
  have hholds : Holds (StorehouseUse.asked [] sharedUses) "app" "key" ⟨.text, "x"⟩ := by
    refine ⟨[("app", .write .integer "key" (3 : Int32)), ("other", .write .boolean "key" true)], _,
      [("other", .clear)], rfl, .present .text "key" "x", fun later hlater => ?_⟩
    exact absurd (Prod.mk.inj (List.mem_singleton.1 hlater)).1 (by decide)
  obtain ⟨h, hrun, hhandles, spaces, -, hspaces, hnames⟩ := handles_remember_last_writes hgiven
  obtain ⟨hanswers, hremembers⟩ := hhandles 0 "app" rfl
  obtain ⟨after, hafter, -⟩ := hanswers (.readOptional .text "key")
  rw [hremembers.readOptional hholds] at hafter
  have hkeys : h.engine.keys = spaces :=
    StoreAnswer.names.inj (Prod.mk.inj (hnames "app")).1
  have hopened : .openNamespace "other" ∈ sharedUses := by simp [sharedUses]
  refine ⟨hgiven, h, after, hrun, hafter, ?_⟩
  rw [hkeys, hspaces]
  exact ⟨_, hopened, List.mem_singleton_self _⟩

end TypedPreferences
