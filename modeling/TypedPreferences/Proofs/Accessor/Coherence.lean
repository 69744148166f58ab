import Mathlib.Data.List.Nodup
import TypedPreferences.Accessor.Desk
import TypedPreferences.Proofs.Flow.Handles

/-! The published snapshot and the flow of an accessor agree at all times: every handle that was
given out is of one flow, whose value is the very object that the accessor gives, and every view
shows that object through its function. -/

namespace TypedPreferences

namespace Accessor

variable {F : Type}

/-- A flow serves an accessor: its channel holds the published object, and the handles and views
that were given out are of this channel. The handle that the accessor keeps was not given out. -/
structure Serves (a : Accessor F) (w : Space F) (flows : List Nat)
    (views : List (Nat × (Snapshot F → Datum F))) (kept channel : Nat)
    (object : Shared (Snapshot F)) : Prop where
  published : a.slot.object? = some object
  keeps : w.hub.channelOf? kept = some channel
  content : w.hub.content? channel = some object
  gave : ∀ flow ∈ flows, w.hub.channelOf? flow = some channel
  shows : ∀ v ∈ views, w.hub.view? v.1 = some ⟨channel, fun object => v.2 object.value⟩
  distinct : (kept :: flows).Nodup

/-- What holds of an accessor between its uses. Its object was made before now; nothing was given
out before it kept a flow; and once it keeps one, that flow serves it. -/
structure Coherent (a : Accessor F) (w : Space F) (flows : List Nat)
    (views : List (Nat × (Snapshot F → Datum F))) : Prop where
  serial_lt : ∀ object, a.slot.object? = some object → object.serial < w.objects
  unasked : a.flow? = none → flows = [] ∧ views = []
  asked : ∀ kept, a.flow? = some kept → ∃ channel object, a.Serves w flows views kept channel object

section Get

variable (a : Accessor F) (w : Space F)

theorem get_of_published {object : Shared (Snapshot F)} (h : a.slot.object? = some object) :
    a.get w = (object, a, w) := by
  rw [get, h]

theorem get_of_unpublished (h : a.slot.object? = none) :
    a.get w =
      let (values, s) := a.layout.decode (w.shelf a.space)
      let object : Shared (Snapshot F) := ⟨w.objects, values⟩
      (object, { a with slot := ⟨some object⟩ },
        { w with
          engine := w.engine.setStore a.space s.store
          warnings := s.warnings
          objects := w.objects + 1 }) := by
  rw [get, h]
  rfl

/-- The object that is given is published from then on. -/
theorem published_get : (a.get w).2.1.slot.object? = some (a.get w).1 := by
  cases h : a.slot.object? with
  | some object => rw [get_of_published a w h, h]
  | none => rw [get_of_unpublished a w h]

theorem hub_get : (a.get w).2.2.hub = w.hub := by
  cases h : a.slot.object? with
  | some object => rw [get_of_published a w h]
  | none => rw [get_of_unpublished a w h]

end Get

namespace Coherent

variable {a : Accessor F} {w : Space F} {flows : List Nat}
variable {views : List (Nat × (Snapshot F → Datum F))}

theorem opened (l : Layout F) (id : String) (w : Space F) :
    ({ layout := l, space := id } : Accessor F).Coherent w [] [] where
  serial_lt object h := by cases h
  unasked _ := ⟨rfl, rfl⟩
  asked kept h := by cases h

/-- What happens to the stores is of no matter. -/
theorem of_hub_eq (h : a.Coherent w flows views) {after : Space F} (hhub : after.hub = w.hub)
    (hobjects : after.objects = w.objects) : a.Coherent after flows views where
  serial_lt object hobject := hobjects ▸ h.serial_lt object hobject
  unasked := h.unasked
  asked kept hkept := by
    obtain ⟨channel, object, hserves⟩ := h.asked kept hkept
    refine ⟨channel, object, ?_⟩
    obtain ⟨hpublished, hchannel, hcontent, hflows, hviews, hdistinct⟩ := hserves
    constructor <;> simpa only [hhub]

theorem get (h : a.Coherent w flows views) :
    (a.get w).2.1.Coherent (a.get w).2.2 flows views := by
  cases hslot : a.slot.object? with
  | some object =>
    rw [get_of_published a w hslot]
    exact h
  | none =>
    -- An accessor that keeps a flow has published an object, so this one keeps none.
    have hflow : a.flow? = none := by
      cases hkept : a.flow? with
      | none => rfl
      | some kept =>
        obtain ⟨_, object, hserves⟩ := h.asked kept hkept
        rw [hserves.published] at hslot
        cases hslot
    rw [get_of_unpublished a w hslot]
    refine ⟨?_, ?_, ?_⟩
    · intro object hobject
      cases hobject
      exact Nat.lt_succ_self _
    · exact fun _ => h.unasked hflow
    · intro kept hkept
      rw [hflow] at hkept
      cases hkept

/-- Publishing tells the flow, if there is one, of the object that is published. -/
theorem update (h : a.Coherent w flows views) (e : Editor F) :
    (a.update w e).1.Coherent (a.update w e).2 flows views := by
  let object : Shared (Snapshot F) := ⟨w.objects, e.values⟩
  refine ⟨?_, ?_, ?_⟩
  · intro published hpublished
    cases hpublished
    exact Nat.lt_succ_self _
  · exact h.unasked
  · intro kept hkept
    change a.flow? = some kept at hkept
    obtain ⟨channel, old, hserves⟩ := h.asked kept hkept
    -- The flow that is kept leads to a channel, so telling it cannot fail.
    have hhub : (a.update w e).2.hub =
        { w.hub with channels := w.hub.channels.modify channel (·.set object) } := by
      change (a.flow?.bind fun flow => w.hub.set? flow object).getD w.hub = _
      rw [hkept, Option.bind_some, Hub.set?, hserves.keeps, Option.map_some, Option.getD_some]
    refine ⟨channel, object, rfl, ?_, ?_, ?_, ?_, hserves.distinct⟩
    · rw [hhub]
      exact hserves.keeps
    · rw [hhub]
      exact Hub.content?_set hserves.content object
    · rw [hhub]
      exact hserves.gave
    · rw [hhub]
      exact hserves.shows

/-- An accessor that keeps a flow gives out a further handle to it. -/
theorem stateFlow_of_kept {kept channel : Nat} {object : Shared (Snapshot F)}
    (hkept : a.flow? = some kept) (hserves : a.Serves w flows views kept channel object) :
    a.stateFlow w =
      (w.hub.flows.length, a,
        { w with hub := { w.hub with flows := w.hub.flows ++ [some channel] } }) := by
  rw [Accessor.stateFlow, hkept, Option.bind_some, Hub.cloneFlow?_of_channelOf? hserves.keeps]

/-- An accessor that keeps no flow yet makes one with the object that it gives, and keeps one of two
handles to it. -/
theorem stateFlow_of_unasked (hflow : a.flow? = none) :
    a.stateFlow w =
      (w.hub.flows.length + 1, { (a.get w).2.1 with flow? := some w.hub.flows.length },
        { (a.get w).2.2 with hub := w.hub.createShared (a.get w).1 }) := by
  have hclone := w.hub.cloneFlow?_create (a.get w).1
  rw [Accessor.stateFlow, hflow, Option.bind_none]
  dsimp only
  rw [hub_get, hclone]
  rfl

theorem stateFlow (h : a.Coherent w flows views) :
    (a.stateFlow w).2.1.Coherent (a.stateFlow w).2.2 (flows ++ [(a.stateFlow w).1]) views := by
  cases hflow : a.flow? with
  | some kept =>
    obtain ⟨channel, object, hserves⟩ := h.asked kept hflow
    -- All handles that are there were made before the one that is given out now.
    have hbefore : ∀ flow ∈ kept :: flows, flow < w.hub.flows.length := by
      intro flow hmem
      rcases List.mem_cons.1 hmem with rfl | hmem
      · exact Hub.flow_lt_length hserves.keeps
      · exact Hub.flow_lt_length (hserves.gave flow hmem)
    have hdistinct : (kept :: (flows ++ [w.hub.flows.length])).Nodup := by
      rw [← List.cons_append, List.nodup_append]
      refine ⟨hserves.distinct, List.nodup_singleton _, ?_⟩
      intro flow hmem other hother
      rw [List.mem_singleton.1 hother]
      exact Nat.ne_of_lt (hbefore flow hmem)
    rw [stateFlow_of_kept hflow hserves]
    refine ⟨h.serial_lt, ?_, ?_⟩
    · intro hnone
      rw [hflow] at hnone
      cases hnone
    · intro kept' hkept'
      obtain rfl : kept = kept' := Option.some.inj (hflow.symm.trans hkept')
      refine ⟨channel, object, hserves.published, ?_, hserves.content, ?_, hserves.shows, hdistinct⟩
      · exact Hub.channelOf?_before_added hserves.keeps _
      · intro flow hmem
        rcases List.mem_append.1 hmem with hmem | hmem
        · exact Hub.channelOf?_before_added (hserves.gave flow hmem) _
        · obtain rfl := List.mem_singleton.1 hmem
          exact Hub.channelOf?_added _ channel
  | none =>
    obtain ⟨rfl, rfl⟩ := h.unasked hflow
    obtain ⟨hkept, hgiven⟩ := w.hub.channelOf?_createShared (a.get w).1
    rw [stateFlow_of_unasked hflow]
    refine ⟨h.get.serial_lt, ?_, ?_⟩
    · intro hnone
      cases hnone
    · intro kept hsome
      cases hsome
      refine ⟨w.hub.channels.length, (a.get w).1, published_get a w, hkept, ?_, ?_, ?_, ?_⟩
      · exact w.hub.content?_createShared (a.get w).1
      · intro flow hmem
        obtain rfl := List.mem_singleton.1 hmem
        exact hgiven
      · intro v hmem
        cases hmem
      · rw [List.nil_append, List.nodup_cons, List.mem_singleton]
        exact ⟨Nat.ne_of_lt (Nat.lt_succ_self _), List.nodup_singleton _⟩

/-- Once a view was made by the handle given last, and this handle is dropped, the flow serves the
view as well. -/
theorem mapped {kept channel flow : Nat} {object : Shared (Snapshot F)}
    (hserves : a.Serves w (flows ++ [flow]) views kept channel object)
    (transform : Snapshot F → Datum F) :
    let view : FlowView (Shared (Snapshot F)) (Datum F) :=
      ⟨channel, fun object => transform object.value⟩
    let hub := { w.hub with views := w.hub.views ++ [some view] }
    a.Serves { w with hub := hub.dropFlow flow } flows
      (views ++ [(w.hub.views.length, transform)]) kept channel object := by
  intro view hub
  obtain ⟨hdistinct, -, hlast⟩ := List.nodup_append.1
    (List.cons_append ▸ hserves.distinct : ((kept :: flows) ++ [flow]).Nodup)
  -- The handle that is dropped is none of those that were given before.
  have hne : ∀ other ∈ kept :: flows, other ≠ flow := by
    intro other hmem
    exact hlast other hmem flow (List.mem_singleton_self flow)
  refine ⟨hserves.published, ?_, hserves.content, ?_, ?_, hdistinct⟩
  · rw [Hub.channelOf?_dropFlow_of_ne (hne kept List.mem_cons_self)]
    exact hserves.keeps
  · intro other hmem
    rw [Hub.channelOf?_dropFlow_of_ne (hne other (List.mem_cons_of_mem kept hmem))]
    exact hserves.gave other (List.mem_append_left _ hmem)
  · intro v hmem
    rcases List.mem_append.1 hmem with hmem | hmem
    · exact Hub.view?_before_added (hserves.shows v hmem) _
    · obtain rfl := List.mem_singleton.1 hmem
      change (hub.views[w.hub.views.length]?).join = _
      rw [List.getElem?_concat_length]
      rfl

theorem mapFlow?_eq {channel : Nat}
    (hgiven : (a.stateFlow w).2.2.hub.channelOf? (a.stateFlow w).1 = some channel)
    (transform : Snapshot F → Datum F) :
    let (flow, accessor, space) := a.stateFlow w
    let view : FlowView (Shared (Snapshot F)) (Datum F) :=
      ⟨channel, fun object => transform object.value⟩
    let hub := { space.hub with views := space.hub.views ++ [some view] }
    a.mapFlow? w transform =
      some (space.hub.views.length, accessor, { space with hub := hub.dropFlow flow }) := by
  dsimp only
  rw [Accessor.mapFlow?]
  dsimp only
  rw [Hub.map?, hgiven]
  rfl

/-- A view is always given. The handle by which it was made is dropped, and no other. -/
theorem mapFlow? (h : a.Coherent w flows views) (transform : Snapshot F → Datum F) :
    ∃ view hub,
      let space := { (a.stateFlow w).2.2 with hub }
      a.mapFlow? w transform = some (view, (a.stateFlow w).2.1, space) ∧
        (a.stateFlow w).2.1.Coherent space flows (views ++ [(view, transform)]) := by
  have hstate := h.stateFlow
  cases hflow : (a.stateFlow w).2.1.flow? with
  | none =>
    -- A flow was given out just now.
    obtain ⟨hnone, -⟩ := hstate.unasked hflow
    exact absurd hnone (List.append_ne_nil_of_right_ne_nil _ (List.cons_ne_nil _ _))
  | some kept =>
    obtain ⟨channel, object, hserves⟩ := hstate.asked kept hflow
    have hgiven : (a.stateFlow w).2.2.hub.channelOf? (a.stateFlow w).1 = some channel :=
      hserves.gave _ (List.mem_append_right _ (List.mem_singleton_self _))
    refine ⟨_, _, mapFlow?_eq hgiven transform, hstate.serial_lt, ?_, ?_⟩
    · intro hnone
      rw [hflow] at hnone
      cases hnone
    · intro kept' hkept'
      obtain rfl : kept = kept' := Option.some.inj (hflow.symm.trans hkept')
      exact ⟨channel, object, mapped hserves transform⟩

end Coherent

end Accessor

end TypedPreferences
