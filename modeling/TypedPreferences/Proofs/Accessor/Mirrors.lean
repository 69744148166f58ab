import Mathlib.Data.List.Forall2
import TypedPreferences.Proofs.Accessor.Tasks

/-! Two runs that are the same to a declaration. Numbers of objects and of channels differ between
them, so the numbers of the one run are paired with those of the other; all that is told by these
numbers is which objects, and which flows, are the same. What accessors give and do is the same in
both runs. -/

namespace TypedPreferences

/-- Pairs in which no number occurs twice on a side. -/
def OneToOne (pairs : Nat → Nat → Prop) : Prop :=
  ∀ i j i' j', pairs i j → pairs i' j' → (i = i' ↔ j = j')

/-- Some pairs and one more. -/
def Joined (pairs : Nat → Nat → Prop) (i j : Nat) : Nat → Nat → Prop :=
  fun i' j' => pairs i' j' ∨ i' = i ∧ j' = j

theorem OneToOne.joined {pairs : Nat → Nat → Prop} {i j : Nat} (h : OneToOne pairs)
    (hnew : ∀ {i' j'}, pairs i' j' → i' < i ∧ j' < j) : OneToOne (Joined pairs i j) := by
  rintro _ _ _ _ (hold | ⟨rfl, rfl⟩) (hold' | ⟨rfl, rfl⟩)
  · exact h _ _ _ _ hold hold'
  · have hlt := hnew hold
    omega
  · have hlt := hnew hold'
    omega
  · exact iff_of_true rfl rfl

theorem forall₂_getElem? {α β : Type} {R : α → β → Prop} {xs : List α} {ys : List β}
    (h : List.Forall₂ R xs ys) {i : Nat} {x : α} (hx : xs[i]? = some x) :
    ∃ y, ys[i]? = some y ∧ R x y := by
  induction h generalizing i with
  | nil => cases hx
  | cons hhead _ ih =>
    cases i with
    | zero =>
      obtain rfl := Option.some.inj hx
      exact ⟨_, rfl, hhead⟩
    | succ i => exact ih hx

theorem forall₂_set {α β : Type} {R : α → β → Prop} {xs : List α} {ys : List β}
    (h : List.Forall₂ R xs ys) (i : Nat) {x : α} {y : β} (hxy : R x y) :
    List.Forall₂ R (xs.set i x) (ys.set i y) := by
  induction h generalizing i with
  | nil => exact .nil
  | cons hhead htail ih =>
    cases i with
    | zero => exact .cons hxy htail
    | succ i => exact .cons hhead (ih i)

theorem forall₂_concat {α β : Type} {R : α → β → Prop} {xs : List α} {ys : List β}
    (h : List.Forall₂ R xs ys) {x : α} {y : β} (hxy : R x y) :
    List.Forall₂ R (xs ++ [x]) (ys ++ [y]) :=
  List.rel_append h (.cons hxy .nil)

theorem rel_cases {α β : Type} {R : α → β → Prop} {x : Option α} {y : Option β}
    (h : Option.Rel R x y) :
    (x = none ∧ y = none) ∨ ∃ a b, x = some a ∧ y = some b ∧ R a b := by
  cases h with
  | none => exact .inl ⟨rfl, rfl⟩
  | some hab => exact .inr ⟨_, _, rfl, rfl, hab⟩

theorem rel_mono {α β : Type} {R S : α → β → Prop} {x : Option α} {y : Option β}
    (h : Option.Rel R x y) (himp : ∀ a b, R a b → S a b) : Option.Rel S x y := by
  cases h with
  | none => exact .none
  | some hab => exact .some (himp _ _ hab)

section Stores

variable {F : Type}

theorem Confined.store_eq {α : Type} {key : String} {f : Shelf → α × Shelf} (h : Confined key f)
    {s t : Shelf} (hstore : s.store = t.store) : (f s).2.store = (f t).2.store := by
  apply SortedMap.ext_get?
  intro k
  by_cases hk : k = key
  · rw [hk]
    exact h.entry s t (by rw [hstore])
  · rw [h.frame s k hk, h.frame t k hk, hstore]

/-- What is read, and what reading leaves, depends on the store alone and not on the warnings given
before. -/
theorem Layout.decode_of_store_eq (l : Layout F) {s t : Shelf} (hstore : s.store = t.store) :
    (l.decode s).1 = (l.decode t).1 ∧ (l.decode s).2.store = (l.decode t).2.store := by
  unfold decode
  induction l.fields generalizing s t with
  | nil => exact ⟨rfl, hstore⟩
  | cons f rest ih =>
    have hconfined := l.meaning.confined_decode f.plan f.default
    have hvalue : (l.meaning.decode f.plan f.default s).1 =
        (l.meaning.decode f.plan f.default t).1 := hconfined.result s t (by rw [hstore])
    obtain ⟨hvalues, hleft⟩ := ih (hconfined.store_eq hstore)
    refine ⟨?_, hleft⟩
    rw [decodeFields, decodeFields]
    exact congrArg₂ List.cons (congrArg (Prod.mk f.name) hvalue) hvalues

theorem Layout.encode_of_store_eq (l : Layout F) (field : String) (value : Datum F) {s t : Shelf}
    (hstore : s.store = t.store) : (l.encode field value s).store = (l.encode field value t).store := by
  unfold encode
  cases l.field? field with
  | none => exact hstore
  | some f => exact (l.meaning.confined_encode f.plan.field f.plan.encode value).store_eq hstore

end Stores

variable {F : Type} {objects channels : Nat → Nat → Prop} {id : String} {w v : Space F}

/-- The objects of two runs that stand for each other have the same value. -/
structure SameObject (objects : Nat → Nat → Prop) (a b : Shared (Snapshot F)) : Prop where
  serial : objects a.serial b.serial
  value : a.value = b.value

structure SameChannel (objects : Nat → Nat → Prop) (c d : Channel (Shared (Snapshot F))) :
    Prop where
  version : c.version = d.version
  value : SameObject objects c.value d.value

/-- Two spaces are the same to a declaration. -/
structure Space.Mirrors (objects channels : Nat → Nat → Prop) (id : String) (w v : Space F) :
    Prop where
  store : w.engine.store id = v.engine.store id
  distinctObjects : OneToOne objects
  made : ∀ {i j}, objects i j → i < w.objects ∧ j < v.objects
  distinctChannels : OneToOne channels
  contents : ∀ {i j}, channels i j → ∃ c d, w.hub.channels[i]? = some c ∧
    v.hub.channels[j]? = some d ∧ SameChannel objects c d

/-- Handles of flows whose channels stand for each other. -/
def SameFlow (channels : Nat → Nat → Prop) (w v : Space F) (flow other : Nat) : Prop :=
  ∃ c d, w.hub.channelOf? flow = some c ∧ v.hub.channelOf? other = some d ∧ channels c d

structure Accessor.Mirrors (objects channels : Nat → Nat → Prop) (w v : Space F)
    (a b : Accessor F) : Prop where
  layout : a.layout = b.layout
  space : a.space = b.space
  published : Option.Rel (SameObject objects) a.slot.object? b.slot.object?
  kept : Option.Rel (SameFlow channels w v) a.flow? b.flow?

structure Bench.Mirrors (objects channels : Nat → Nat → Prop) (w v : Space F) (b c : Bench F) :
    Prop where
  accessors : List.Forall₂ (Accessor.Mirrors objects channels w v) b.accessors c.accessors
  editors : b.editors = c.editors
  flows : List.Forall₂ (SameFlow channels w v) b.flows c.flows
  shown : List.Forall₂ (SameObject objects) b.shown c.shown

section Growing

variable {objects' channels' : Nat → Nat → Prop} {w' v' : Space F}

theorem SameObject.mono {a b : Shared (Snapshot F)} (h : SameObject objects a b)
    (hobjects : ∀ {i j}, objects i j → objects' i j) : SameObject objects' a b :=
  ⟨hobjects h.serial, h.value⟩

variable (hobjects : ∀ {i j}, objects i j → objects' i j)
variable (hchannels : ∀ {i j}, channels i j → channels' i j)
variable (hw : w.Keeps w') (hv : v.Keeps v')

include hchannels hw hv in
theorem SameFlow.mono {flow other : Nat} (h : SameFlow channels w v flow other) :
    SameFlow channels' w' v' flow other := by
  obtain ⟨c, d, hc, hd, hpair⟩ := h
  exact ⟨c, d, hw _ _ hc, hv _ _ hd, hchannels hpair⟩

include hobjects hchannels hw hv

theorem Accessor.Mirrors.mono {a b : Accessor F} (h : a.Mirrors objects channels w v b) :
    a.Mirrors objects' channels' w' v' b where
  layout := h.layout
  space := h.space
  published := rel_mono h.published fun _ _ hsame => hsame.mono hobjects
  kept := rel_mono h.kept fun _ _ hsame => hsame.mono hchannels hw hv

theorem Bench.Mirrors.mono {b c : Bench F} (h : b.Mirrors objects channels w v c) :
    b.Mirrors objects' channels' w' v' c where
  accessors := h.accessors.imp fun _ _ hsame => hsame.mono hobjects hchannels hw hv
  editors := h.editors
  flows := h.flows.imp fun _ _ hsame => hsame.mono hchannels hw hv
  shown := h.shown.imp fun _ _ hsame => hsame.mono hobjects

end Growing

namespace Space.Mirrors

variable {objects' : Nat → Nat → Prop} {w' v' : Space F}

/-- Two spaces are still the same to a declaration when its stores are, no channel was touched and
objects that were made stand for each other. -/
theorem of_hub_eq (h : w.Mirrors objects channels id v)
    (hstore : w'.engine.store id = v'.engine.store id) (hhub : w'.hub = w.hub)
    (hhub' : v'.hub = v.hub) (hobjects : ∀ {i j}, objects i j → objects' i j)
    (hdistinct : OneToOne objects')
    (hmade : ∀ {i j}, objects' i j → i < w'.objects ∧ j < v'.objects) :
    w'.Mirrors objects' channels id v' where
  store := hstore
  distinctObjects := hdistinct
  made := hmade
  distinctChannels := h.distinctChannels
  contents hpair := by
    obtain ⟨c, d, hc, hd, hsame⟩ := h.contents hpair
    rw [hhub, hhub']
    exact ⟨c, d, hc, hd, hsame.version, hsame.value.mono hobjects⟩

/-- Both spaces make an object. -/
theorem share (h : w.Mirrors objects channels id v)
    (hstore : w'.engine.store id = v'.engine.store id) (hhub : w'.hub = w.hub)
    (hhub' : v'.hub = v.hub) (hmade : w'.objects = w.objects + 1)
    (hmade' : v'.objects = v.objects + 1) :
    w'.Mirrors (Joined objects w.objects v.objects) channels id v' := by
  refine h.of_hub_eq hstore hhub hhub' .inl (h.distinctObjects.joined h.made) ?_
  rintro i j (hold | ⟨rfl, rfl⟩)
  · obtain ⟨hi, hj⟩ := h.made hold
    omega
  · omega

/-- Channels that stand for each other are told objects that stand for each other. -/
theorem set (h : w.Mirrors objects channels id v) {c d : Nat} (hpair : channels c d)
    {a b : Shared (Snapshot F)} (hsame : SameObject objects a b) :
    ({ w with hub := { w.hub with channels := w.hub.channels.modify c (·.set a) } } : Space F).Mirrors
      objects channels id
      { v with hub := { v.hub with channels := v.hub.channels.modify d (·.set b) } } where
  store := h.store
  distinctObjects := h.distinctObjects
  made := h.made
  distinctChannels := h.distinctChannels
  contents {i j} hij := by
    obtain ⟨x, y, hx, hy, hxy⟩ := h.contents hij
    -- The pairs are one to one, so the told channel is met on both sides or on neither.
    have hboth := h.distinctChannels _ _ _ _ hpair hij
    by_cases hc : c = i
    · obtain rfl := hc
      obtain rfl := hboth.1 rfl
      refine ⟨x.set a, y.set b, ?_, ?_, congrArg (· + 1) hxy.version, hsame⟩
      · rw [List.getElem?_modify_eq, hx]
        rfl
      · rw [List.getElem?_modify_eq, hy]
        rfl
    · have hd : d ≠ j := fun heq => hc (hboth.2 heq)
      exact ⟨x, y, (List.getElem?_modify_ne _ _ hc).trans hx,
        (List.getElem?_modify_ne _ _ hd).trans hy, hxy⟩

theorem channels_lt (h : w.Mirrors objects channels id v) {c d : Nat} (hpair : channels c d) :
    c < w.hub.channels.length ∧ d < v.hub.channels.length := by
  obtain ⟨x, y, hx, hy, -⟩ := h.contents hpair
  exact ⟨(List.getElem?_eq_some_iff.1 hx).1, (List.getElem?_eq_some_iff.1 hy).1⟩

/-- Both spaces make a flow that begins with objects that stand for each other. -/
theorem createShared (h : w.Mirrors objects channels id v) {a b : Shared (Snapshot F)}
    (hsame : SameObject objects a b) :
    ({ w with hub := w.hub.createShared a } : Space F).Mirrors objects
      (Joined channels w.hub.channels.length v.hub.channels.length) id
      { v with hub := v.hub.createShared b } where
  store := h.store
  distinctObjects := h.distinctObjects
  made := h.made
  distinctChannels := h.distinctChannels.joined h.channels_lt
  contents {i j} hij := by
    rcases hij with hold | ⟨rfl, rfl⟩
    · obtain ⟨x, y, hx, hy, hxy⟩ := h.contents hold
      obtain ⟨hi, hj⟩ := h.channels_lt hold
      exact ⟨x, y, (List.getElem?_append_left hi).trans hx,
        (List.getElem?_append_left hj).trans hy, hxy⟩
    · exact ⟨⟨a, 0⟩, ⟨b, 0⟩, List.getElem?_concat_length, List.getElem?_concat_length, rfl, hsame⟩

end Space.Mirrors

namespace Accessor.Mirrors

variable {a b : Accessor F}

/-- Accessors that mirror each other give objects that stand for each other. -/
theorem get (hspaces : w.Mirrors objects channels id v) (h : a.Mirrors objects channels w v b)
    (hspace : a.space = id) :
    ∃ objects' : Nat → Nat → Prop, (∀ {i j}, objects i j → objects' i j) ∧
      (a.get w).2.2.Mirrors objects' channels id (b.get v).2.2 ∧
      (a.get w).2.1.Mirrors objects' channels w v (b.get v).2.1 ∧
      SameObject objects' (a.get w).1 (b.get v).1 := by
  rcases rel_cases h.published with ⟨hslot, hslot'⟩ | ⟨object, other, hslot, hslot', hsame⟩
  · -- Both read, from stores that are alike, and publish what they read.
    have hshelf : (w.shelf a.space).store = (v.shelf b.space).store := by
      rw [← h.space, hspace]
      exact hspaces.store
    obtain ⟨hvalues, hleft⟩ := a.layout.decode_of_store_eq hshelf
    have hnew : SameObject (Joined objects w.objects v.objects)
        ⟨w.objects, (a.layout.decode (w.shelf a.space)).1⟩
        ⟨v.objects, (b.layout.decode (v.shelf b.space)).1⟩ := by
      refine ⟨.inr ⟨rfl, rfl⟩, ?_⟩
      rw [← h.layout]
      exact hvalues
    rw [get_of_unpublished a w hslot, get_of_unpublished b v hslot']
    refine ⟨Joined objects w.objects v.objects, .inl, hspaces.share ?_ rfl rfl rfl rfl, ?_, hnew⟩
    · dsimp only
      rw [← h.space, hspace, Engine.store_setStore, Engine.store_setStore, if_pos rfl, if_pos rfl,
        ← h.layout]
      rw [← h.space, hspace] at hleft
      exact hleft
    · exact ⟨h.layout, h.space, .some hnew, h.kept⟩
  · -- Both give what they published before.
    rw [get_of_published a w hslot, get_of_published b v hslot']
    exact ⟨objects, fun hold => hold, hspaces, h, hsame⟩

/-- Accessors that mirror each other publish objects that stand for each other, and tell flows that
do. -/
theorem update (hspaces : w.Mirrors objects channels id v) (h : a.Mirrors objects channels w v b)
    (e : Editor F) :
    ∃ objects' : Nat → Nat → Prop, (∀ {i j}, objects i j → objects' i j) ∧
      (a.update w e).2.Mirrors objects' channels id (b.update v e).2 ∧
      (a.update w e).1.Mirrors objects' channels w v (b.update v e).1 := by
  have hnew : SameObject (Joined objects w.objects v.objects) ⟨w.objects, e.values⟩
      ⟨v.objects, e.values⟩ := ⟨.inr ⟨rfl, rfl⟩, rfl⟩
  have hshared : ({ w with objects := w.objects + 1 } : Space F).Mirrors
      (Joined objects w.objects v.objects) channels id { v with objects := v.objects + 1 } :=
    hspaces.share hspaces.store rfl rfl rfl rfl
  rcases rel_cases h.kept with ⟨hflow, hflow'⟩ | ⟨flow, other, hflow, hflow', c, d, hc, hd, hpair⟩
  · rw [update_of_unasked hflow, update_of_unasked hflow']
    exact ⟨Joined objects w.objects v.objects, .inl, hshared, h.layout, h.space, .some hnew, h.kept⟩
  · rw [update_of_kept hflow hc, update_of_kept hflow' hd]
    exact ⟨Joined objects w.objects v.objects, .inl, hshared.set hpair hnew, h.layout, h.space,
      .some hnew, h.kept⟩

/-- Accessors that mirror each other give flows that stand for each other. -/
theorem stateFlow (hspaces : w.Mirrors objects channels id v)
    (h : a.Mirrors objects channels w v b) (hspace : a.space = id) :
    ∃ objects' channels' : Nat → Nat → Prop, (∀ {i j}, objects i j → objects' i j) ∧
      (∀ {i j}, channels i j → channels' i j) ∧
      (∀ {i j}, channels' i j → channels i j ∨ w.hub.channels.length ≤ i) ∧
      (a.stateFlow w).2.2.Mirrors objects' channels' id (b.stateFlow v).2.2 ∧
      (a.stateFlow w).2.1.Mirrors objects' channels' (a.stateFlow w).2.2 (b.stateFlow v).2.2
        (b.stateFlow v).2.1 ∧
      SameFlow channels' (a.stateFlow w).2.2 (b.stateFlow v).2.2 (a.stateFlow w).1
        (b.stateFlow v).1 := by
  rcases rel_cases h.kept with ⟨hflow, hflow'⟩ | ⟨flow, other, hflow, hflow', c, d, hc, hd, hpair⟩
  · -- Both make a flow of the object that they give.
    obtain ⟨objects', hobjects, hread, haccessors, hsame⟩ := h.get hspaces hspace
    have hmade := hread.createShared hsame
    rw [hub_get, hub_get] at hmade
    obtain ⟨hkept, hgiven⟩ := w.hub.channelOf?_createShared (a.get w).1
    obtain ⟨hkept', hgiven'⟩ := v.hub.channelOf?_createShared (b.get v).1
    rw [Coherent.stateFlow_of_unasked hflow, Coherent.stateFlow_of_unasked hflow']
    refine ⟨objects', Joined channels w.hub.channels.length v.hub.channels.length, hobjects, .inl,
      ?_, hmade, ?_, ?_⟩
    · rintro i j (hold | ⟨rfl, rfl⟩)
      · exact .inl hold
      · exact .inr (Nat.le_refl _)
    · exact ⟨haccessors.layout, haccessors.space, haccessors.published,
        .some ⟨_, _, hkept, hkept', .inr ⟨rfl, rfl⟩⟩⟩
    · exact ⟨_, _, hgiven, hgiven', .inr ⟨rfl, rfl⟩⟩
  · -- Both give a further handle of the flow that they keep.
    have hstate : a.stateFlow w = (w.hub.flows.length, a,
        { w with hub := { w.hub with flows := w.hub.flows ++ [some c] } }) := by
      rw [Accessor.stateFlow, hflow, Option.bind_some, Hub.cloneFlow?_of_channelOf? hc]
    have hstate' : b.stateFlow v = (v.hub.flows.length, b,
        { v with hub := { v.hub with flows := v.hub.flows ++ [some d] } }) := by
      rw [Accessor.stateFlow, hflow', Option.bind_some, Hub.cloneFlow?_of_channelOf? hd]
    rw [hstate, hstate']
    refine ⟨objects, channels, fun hold => hold, fun hold => hold, .inl, ?_, ?_, ?_⟩
    · exact ⟨hspaces.store, hspaces.distinctObjects, hspaces.made, hspaces.distinctChannels,
        hspaces.contents⟩
    · exact h.mono (fun hold => hold) (fun hold => hold)
        (fun _ _ hold => Hub.channelOf?_before_added hold _)
        (fun _ _ hold => Hub.channelOf?_before_added hold _)
    · exact ⟨c, d, Hub.channelOf?_added _ c, Hub.channelOf?_added _ d, hpair⟩

end Accessor.Mirrors

end TypedPreferences
