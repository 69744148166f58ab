import TypedPreferences.Proofs.Accessor.Runs
import TypedPreferences.Proofs.Samples.Planned

/-! What others do to the stores. Once an accessor has published, the stores have no part in what it
gives, so that its snapshot, its flow and its views agree in any run. -/

namespace TypedPreferences

namespace Accessor

variable {F : Type} {a : Accessor F} (w : Space F)

/-- A flow of an accessor that has published does not depend on the stores. -/
theorem stateFlow_of_published {object : Shared (Snapshot F)} (hslot : a.slot.object? = some object)
    (engine : Engine) (warnings : List Warning) :
    a.stateFlow { w with engine, warnings } =
      ((a.stateFlow w).1, (a.stateFlow w).2.1, { (a.stateFlow w).2.2 with engine, warnings }) := by
  rw [stateFlow, stateFlow, get_of_published a w hslot, get_of_published a _ hslot]
  dsimp only
  cases a.flow?.bind w.hub.cloneFlow? with
  | some kept => rfl
  | none =>
    dsimp only
    cases (w.hub.create object).2.cloneFlow? (w.hub.create object).1 <;> rfl

theorem mapFlow?_of_published {object : Shared (Snapshot F)} (hslot : a.slot.object? = some object)
    (engine : Engine) (warnings : List Warning) (transform : Snapshot F → Datum F) :
    a.mapFlow? { w with engine, warnings } transform =
      (a.mapFlow? w transform).map fun (view, b, v) => (view, b, { v with engine, warnings }) := by
  rw [mapFlow?, stateFlow_of_published w hslot, mapFlow?]
  dsimp only
  cases (a.stateFlow w).2.2.hub.map? (a.stateFlow w).1 fun object => transform object.value <;> rfl

end Accessor

namespace Desk

variable {F : Type} {d next : Desk F} {object : Shared (Snapshot F)}

/-- The same desk, with other stores. -/
def Beside (d other : Desk F) : Prop :=
  ∃ engine warnings, other = { d with space := { d.space with engine, warnings } }

namespace Beside

variable {other : Desk F}

theorem object_eq (h : d.Beside other) (hslot : d.accessor.slot.object? = some object) :
    other.object = d.object := by
  obtain ⟨engine, warnings, rfl⟩ := h
  have hother : ({ d with space := { d.space with engine, warnings } } : Desk F).object = object :=
    object_of_published hslot
  rw [hother, object_of_published hslot]

/-- Once an object is published, the stores have no part in what a use does to the rest. -/
theorem use? (h : d.Beside other) (hslot : d.accessor.slot.object? = some object) {u : Use F}
    (hu : d.use? u = some next) : ∃ after, other.use? u = some after ∧ next.Beside after := by
  obtain ⟨engine, warnings, rfl⟩ := h
  cases u with
  | get =>
    obtain rfl := Option.some.inj ((use?_get_of_published hslot).symm.trans hu)
    exact ⟨_, use?_get_of_published hslot, engine, warnings, rfl⟩
  | mutable =>
    obtain rfl := Option.some.inj ((use?_mutable_of_published hslot).symm.trans hu)
    exact ⟨_, use?_mutable_of_published hslot, engine, warnings, rfl⟩
  | set editor field value =>
    obtain ⟨e, he, rfl⟩ := use?_set_iff.1 hu
    exact ⟨_, use?_set_iff.2 ⟨e, he, rfl⟩, _, _, rfl⟩
  | update editor =>
    obtain ⟨e, he, rfl⟩ := use?_update_iff.1 hu
    exact ⟨_, use?_update_iff.2 ⟨e, he, rfl⟩, engine, warnings, rfl⟩
  | edit sets =>
    -- Both editors end with the same values, and the spaces differ in their stores.
    let e : Editor F := ⟨d.accessor.layout, d.accessor.space, object.value⟩
    obtain ⟨_, _, hspace⟩ := e.setAll_space sets d.space
    obtain ⟨engine', warnings', hspace'⟩ := e.setAll_space sets { d.space with engine, warnings }
    have hedit := use?_edit_of_published hslot sets
    have hedit' := use?_edit_of_published (d := { d with space := { d.space with engine, warnings } })
      hslot sets
    dsimp only at hedit hedit'
    rw [e.setAll_editor, hspace] at hedit
    rw [e.setAll_editor, hspace'] at hedit'
    obtain rfl := Option.some.inj (hedit.symm.trans hu)
    exact ⟨_, hedit', engine', warnings', rfl⟩
  | stateFlow =>
    have hstate := Accessor.stateFlow_of_published d.space hslot engine warnings
    have hother := use?_stateFlow { d with space := { d.space with engine, warnings } }
    dsimp only at hother
    rw [hstate] at hother
    rw [use?_stateFlow] at hu
    obtain rfl := Option.some.inj hu
    exact ⟨_, hother, engine, warnings, rfl⟩
  | mapFlow transform =>
    obtain ⟨⟨view, b, v⟩, hmap, hnext⟩ := Option.bind_eq_some_iff.1 hu
    obtain rfl := Option.some.inj hnext
    have hmap' := Accessor.mapFlow?_of_published d.space hslot engine warnings transform
    rw [hmap] at hmap'
    exact ⟨_, Option.bind_eq_some_iff.2 ⟨_, hmap', rfl⟩, engine, warnings, rfl⟩
  | elsewhere elsewhere =>
    obtain rfl := Option.some.inj hu
    exact ⟨_, rfl, elsewhere, warnings, rfl⟩

theorem elsewhere (h : d.Beside other) {engine : Engine}
    (hu : d.use? (.elsewhere engine) = some next) : next.Beside other := by
  obtain ⟨engine', warnings, rfl⟩ := h
  obtain rfl := Option.some.inj hu
  exact ⟨engine', warnings, rfl⟩

/-- Once an object is published, a run goes as it would go if nobody else touched the stores. -/
theorem run? (h : d.Beside other) (hcoherent : d.Coherent)
    (hslot : d.accessor.slot.object? = some object) {uses : List (Use F)}
    (hrun : d.run? uses = some next) :
    ∃ after, other.run? (uses.filter (!·.isElsewhere)) = some after ∧ next.Beside after := by
  induction uses generalizing d other object with
  | nil =>
    obtain rfl := Option.some.inj hrun
    exact ⟨other, rfl, h⟩
  | cons u rest ih =>
    obtain ⟨middle, hu, hrest⟩ := Option.bind_eq_some_iff.1 hrun
    obtain ⟨-, later, hlater, -⟩ := use?_slot hcoherent hslot hu
    cases hothers : u.isElsewhere with
    | false =>
      obtain ⟨after, hafter, hbeside⟩ := h.use? hslot hu
      obtain ⟨last, hlast, hend⟩ := ih hbeside (hcoherent.use? hu) hlater hrest
      refine ⟨last, ?_, hend⟩
      rw [List.filter_cons_of_pos (by rw [hothers]; rfl)]
      exact Option.bind_eq_some_iff.2 ⟨after, hafter, hlast⟩
    | true =>
      -- Left out of the other run.
      have hbeside : middle.Beside other := by
        cases u with
        | elsewhere engine => exact h.elsewhere hu
        | _ => cases hothers
      rw [List.filter_cons_of_neg (by rw [hothers]; decide)]
      exact ih hbeside (hcoherent.use? hu) hlater hrest

end Beside

namespace Coherent

/-- All flows are one, and show what the accessor gives. -/
theorem flows_show (h : d.Coherent) {flow : Nat} (hflow : flow ∈ d.accessor.flow?.toList ++ d.flows) :
    d.space.hub.value? flow = some d.object ∧
      ∀ other ∈ d.accessor.flow?.toList ++ d.flows,
        d.space.hub.sameFlow? flow other = some true := by
  cases hkept : d.accessor.flow? with
  | none =>
    obtain ⟨hflows, -⟩ := h.unasked hkept
    rw [hkept, hflows] at hflow
    cases hflow
  | some kept =>
    obtain ⟨channel, object, hserves⟩ := h.asked kept hkept
    have hchannel : ∀ other ∈ [kept] ++ d.flows, d.space.hub.channelOf? other = some channel := by
      intro other hmem
      rcases List.mem_cons.1 hmem with rfl | hmem
      · exact hserves.keeps
      · exact hserves.gave other hmem
    have hobject : d.object = object := object_of_published hserves.published
    rw [hkept] at hflow
    refine ⟨?_, ?_⟩
    · rw [Hub.value?_of_channelOf? (hchannel flow hflow), hserves.content, hobject]
    · intro other hother
      exact Hub.sameFlow?_of_channelOf? (hchannel flow hflow) (hchannel other hother)

theorem views_show (h : d.Coherent) {v : Nat × (Snapshot F → Datum F)} (hv : v ∈ d.views) :
    d.space.hub.viewValue? v.1 = some (v.2 d.object.value) := by
  cases hkept : d.accessor.flow? with
  | none =>
    obtain ⟨-, hviews⟩ := h.unasked hkept
    rw [hviews] at hv
    cases hv
  | some kept =>
    obtain ⟨channel, object, hserves⟩ := h.asked kept hkept
    have hobject : d.object = object := object_of_published hserves.published
    rw [Hub.viewValue?_of_view? (hserves.shows v hv), hserves.content, hobject]
    rfl

end Coherent

/-- The snapshot that is given and the flow agree, whatever was done before. All flows are one and
hold the very object that is given, and views show it. An object is given again exactly as long as
nothing is published. The store is read once: a later read changes nothing, and what others write
has no part in what is given. -/
theorem coherent_run {l : Layout F} {id : String} {w : Space F} {uses : List (Use F)}
    (h : (opened l id w).run? uses = some d) :
    let flows := d.accessor.flow?.toList ++ d.flows
    (∀ u, (d.use? u).isSome = u.editor?.all (· < d.editors.length)) ∧
      (∀ flow ∈ flows, d.space.hub.value? flow = some d.object ∧
        ∀ other ∈ flows, d.space.hub.sameFlow? flow other = some true) ∧
      (∀ v ∈ d.views, d.space.hub.viewValue? v.1 = some (v.2 d.object.value)) ∧
      ∀ read between later, d.use? .get = some read → read.run? between = some later →
        (if between.any (·.publishes) then later.object.same d.object = false
          else later.object = d.object) ∧
          later.use? .get = some later ∧
          ∃ apart, read.run? (between.filter (!·.isElsewhere)) = some apart ∧
            apart.object = later.object ∧ apart.editors = later.editors ∧
            apart.space.hub = later.space.hub := by
  intro flows
  have hcoherent : d.Coherent := (Coherent.opened l id w).run? h
  refine ⟨hcoherent.isSome_use?, fun flow => hcoherent.flows_show, fun v => hcoherent.views_show, ?_⟩
  intro read between later hread hrun
  have hreadCoherent : read.Coherent := hcoherent.use? hread
  have hslot : read.accessor.slot.object? = some d.object := by
    obtain rfl := Option.some.inj hread
    exact Accessor.published_get d.accessor d.space
  obtain ⟨object, hlater, hobject⟩ := run?_slot hreadCoherent hslot hrun
  have hgiven : later.object = object := object_of_published hlater
  refine ⟨?_, use?_get_of_published hlater, ?_⟩
  · rw [hgiven]
    by_cases hpublishes : between.any (·.publishes) = true
    · -- What is published is made after the object that was read.
      rw [if_pos hpublishes] at hobject ⊢
      have hbefore : d.object.serial < read.space.objects := hreadCoherent.serial_lt _ hslot
      exact beq_false_of_ne (Nat.ne_of_gt (Nat.lt_of_lt_of_le hbefore hobject))
    · rw [if_neg hpublishes] at hobject ⊢
      exact hobject
  · -- One side leaves out what others write; the two sides stay alike but for their stores.
    have hsame : read.Beside read := ⟨read.space.engine, read.space.warnings, rfl⟩
    obtain ⟨apart, hapart, hbeside⟩ := hsame.run? hreadCoherent hslot hrun
    refine ⟨apart, hapart, hbeside.object_eq hlater, ?_⟩
    obtain ⟨engine, warnings, rfl⟩ := hbeside
    exact ⟨rfl, rfl⟩

open Samples in
/-- A flow that is asked for before anything is read, and a view, follow an editor. -/
theorem coherent_run_primitiveData :
    let count : Snapshot Foreign → Datum Foreign := fun values => (values.value? "count").getD .absent
    let uses : List (Use Foreign) :=
      [.stateFlow, .mutable, .set 0 "count" (value .integer (7 : Int32)), .mapFlow count,
        .elsewhere SortedMap.empty, .update 0, .stateFlow]
    ∃ d, (opened primitiveData.layout "primitive" {}).run? uses = some d ∧ d.flows = [1, 3] ∧
      d.space.hub.value? 1 = some d.object ∧ d.space.hub.sameFlow? 1 3 = some true ∧
      d.space.hub.viewValue? 0 = some (value .integer (7 : Int32)) := by
  intro count uses
  obtain ⟨d, hrun⟩ : ∃ d, (opened primitiveData.layout "primitive" {}).run? uses = some d := ⟨_, rfl⟩
  obtain ⟨-, hflows, hviews, -⟩ := coherent_run hrun
  have hgiven : d.flows = [1, 3] := by
    obtain rfl := Option.some.inj hrun
    rfl
  have hview : d.views = [(0, count)] := by
    obtain rfl := Option.some.inj hrun
    rfl
  have hcount : count d.object.value = value .integer (7 : Int32) := by
    obtain rfl := Option.some.inj hrun
    rfl
  have hmem (flow : Nat) (h : flow ∈ [1, 3]) : flow ∈ d.accessor.flow?.toList ++ d.flows :=
    List.mem_append_right _ (hgiven ▸ h)
  obtain ⟨hvalue, hsame⟩ := hflows 1 (hmem 1 List.mem_cons_self)
  refine ⟨d, hrun, hgiven, hvalue, hsame 3 (hmem 3 (by decide)), ?_⟩
  rw [← hcount]
  exact hviews (0, count) (hview ▸ List.mem_cons_self)

end Desk

end TypedPreferences
