import TypedPreferences.Proofs.Accessor.Coherence
import TypedPreferences.Proofs.Accessor.Editing

/-! Runs of a desk. Each use keeps the accessor coherent, and once something is published makes a new
object exactly when it publishes. -/

namespace TypedPreferences

namespace Accessor

variable {F : Type} {a : Accessor F} {w : Space F}

/-- Asking for a flow is asking for the snapshot, as far as the flow is left out of account. -/
theorem Coherent.stateFlow_eq_get {flows : List Nat}
    {views : List (Nat × (Snapshot F → Datum F))} (h : a.Coherent w flows views) :
    ∃ flow? hub, (a.stateFlow w).2.1 = { (a.get w).2.1 with flow? } ∧
      (a.stateFlow w).2.2 = { (a.get w).2.2 with hub } := by
  cases hflow : a.flow? with
  | some kept =>
    obtain ⟨channel, object, hserves⟩ := h.asked kept hflow
    rw [Coherent.stateFlow_of_kept hflow hserves, get_of_published a w hserves.published]
    exact ⟨a.flow?, _, rfl, rfl⟩
  | none =>
    rw [Coherent.stateFlow_of_unasked hflow]
    exact ⟨_, _, rfl, rfl⟩

end Accessor

namespace Desk

variable {F : Type} {d next : Desk F}

/-- What holds of a desk between its uses. -/
def Coherent (d : Desk F) : Prop :=
  d.accessor.Coherent d.space d.flows d.views

theorem use?_get (d : Desk F) :
    d.use? .get = some { d with
      accessor := (d.accessor.get d.space).2.1
      space := (d.accessor.get d.space).2.2 } := rfl

theorem use?_stateFlow (d : Desk F) :
    d.use? .stateFlow = some { d with
      accessor := (d.accessor.stateFlow d.space).2.1
      space := (d.accessor.stateFlow d.space).2.2
      flows := d.flows ++ [(d.accessor.stateFlow d.space).1] } := rfl

theorem use?_set_iff {editor : Nat} {field : String} {value : Datum F} :
    d.use? (.set editor field value) = some next ↔ ∃ e, d.editors[editor]? = some e ∧
      { d with
        space := (e.set d.space field value).2
        editors := d.editors.set editor (e.set d.space field value).1 } = next := by
  constructor
  · intro hu
    obtain ⟨e, he, hnext⟩ := Option.bind_eq_some_iff.1 hu
    exact ⟨e, he, Option.some.inj hnext⟩
  · rintro ⟨e, he, rfl⟩
    exact Option.bind_eq_some_iff.2 ⟨e, he, rfl⟩

theorem use?_update_iff {editor : Nat} :
    d.use? (.update editor) = some next ↔ ∃ e, d.editors[editor]? = some e ∧
      { d with
        accessor := (d.accessor.update d.space e).1
        space := (d.accessor.update d.space e).2 } = next := by
  constructor
  · intro hu
    obtain ⟨e, he, hnext⟩ := Option.bind_eq_some_iff.1 hu
    exact ⟨e, he, Option.some.inj hnext⟩
  · rintro ⟨e, he, rfl⟩
    exact Option.bind_eq_some_iff.2 ⟨e, he, rfl⟩

namespace Coherent

theorem opened (l : Layout F) (id : String) (w : Space F) : (Desk.opened l id w).Coherent :=
  Accessor.Coherent.opened l id w

theorem use?_mapFlow (h : d.Coherent) (transform : Snapshot F → Datum F) :
    ∃ view hub,
      let after : Desk F := { d with
        accessor := (d.accessor.stateFlow d.space).2.1
        space := { (d.accessor.stateFlow d.space).2.2 with hub }
        views := d.views ++ [(view, transform)] }
      d.use? (.mapFlow transform) = some after ∧ after.Coherent := by
  obtain ⟨view, hub, hmap, hafter⟩ := Accessor.Coherent.mapFlow? h transform
  refine ⟨view, hub, ?_, hafter⟩
  rw [Desk.use?, hmap]
  rfl

/-- Whatever an accessor is asked for, it gives the snapshot. The rest is about its flow. -/
theorem use?_asks (h : d.Coherent) {u : Use F} (hasks : u.asks = true)
    (hu : d.use? u = some next) :
    ∃ flow? hub flows views, next = { d with
      accessor := { (d.accessor.get d.space).2.1 with flow? }
      space := { (d.accessor.get d.space).2.2 with hub }
      flows
      views } := by
  cases u with
  | get =>
    obtain rfl := Option.some.inj hu
    exact ⟨_, _, d.flows, d.views, rfl⟩
  | stateFlow =>
    obtain ⟨flow?, hub, haccessor, hspace⟩ := Accessor.Coherent.stateFlow_eq_get h
    rw [use?_stateFlow, haccessor, hspace] at hu
    obtain rfl := Option.some.inj hu
    exact ⟨flow?, hub, d.flows ++ [(d.accessor.stateFlow d.space).1], d.views, rfl⟩
  | mapFlow transform =>
    obtain ⟨view, hub, hmap, -⟩ := h.use?_mapFlow transform
    obtain ⟨flow?, _, haccessor, hspace⟩ := Accessor.Coherent.stateFlow_eq_get h
    rw [hmap, haccessor, hspace] at hu
    obtain rfl := Option.some.inj hu
    exact ⟨flow?, hub, d.flows, d.views ++ [(view, transform)], rfl⟩
  | mutable | set | update | edit | elsewhere => cases hasks

theorem use? (h : d.Coherent) {u : Use F} (hu : d.use? u = some next) : next.Coherent := by
  cases u with
  | get | mutable =>
    obtain rfl := Option.some.inj hu
    exact h.get
  | set editor field value =>
    obtain ⟨e, -, rfl⟩ := use?_set_iff.1 hu
    exact h.of_hub_eq rfl rfl
  | update editor =>
    obtain ⟨e, -, rfl⟩ := use?_update_iff.1 hu
    exact Accessor.Coherent.update h e
  | edit sets =>
    obtain rfl := Option.some.inj hu
    let opened := d.accessor.mutable d.space
    obtain ⟨engine, warnings, hspace⟩ := opened.1.setAll_space sets opened.2.2
    have hset : opened.2.1.Coherent (opened.1.setAll opened.2.2 sets).2 d.flows d.views := by
      rw [hspace]
      exact h.get.of_hub_eq rfl rfl
    exact hset.update (opened.1.setAll opened.2.2 sets).1
  | stateFlow =>
    obtain rfl := Option.some.inj hu
    exact h.stateFlow
  | mapFlow transform =>
    obtain ⟨view, space, hmap, hafter⟩ := h.use?_mapFlow transform
    obtain rfl := Option.some.inj (hmap.symm.trans hu)
    exact hafter
  | elsewhere engine =>
    obtain rfl := Option.some.inj hu
    exact h.of_hub_eq rfl rfl

theorem run? (h : d.Coherent) {uses : List (Use F)} (hrun : d.run? uses = some next) :
    next.Coherent := by
  induction uses generalizing d with
  | nil =>
    obtain rfl := Option.some.inj hrun
    exact h
  | cons u rest ih =>
    obtain ⟨after, hu, hrest⟩ := Option.bind_eq_some_iff.1 hrun
    exact ih (h.use? hu) hrest

/-- Nothing is refused but an editor that was not opened. -/
theorem isSome_use? (h : d.Coherent) (u : Use F) :
    (d.use? u).isSome = u.editor?.all (· < d.editors.length) := by
  have hnamed (editor : Nat) :
      d.editors[editor]?.isSome = (some editor).all (· < d.editors.length) := by
    rw [Option.all_some, Bool.eq_iff_iff, decide_eq_true_iff]
    exact (isSome_getElem? d.editors editor).to_iff
  cases u with
  | get | mutable | edit sets | stateFlow | elsewhere engine => rfl
  | mapFlow transform =>
    obtain ⟨view, space, hmap, -⟩ := h.use?_mapFlow transform
    rw [hmap]
    rfl
  | set editor _ _ | update editor =>
    rw [Use.editor?, ← hnamed, Desk.use?]
    cases d.editors[editor]? <;> rfl

end Coherent

section Published

variable {object : Shared (Snapshot F)}

theorem object_of_published (hslot : d.accessor.slot.object? = some object) : d.object = object :=
  congrArg Prod.fst (Accessor.get_of_published d.accessor d.space hslot)

theorem use?_get_of_published (hslot : d.accessor.slot.object? = some object) :
    d.use? .get = some d := by
  rw [use?, Accessor.get_of_published d.accessor d.space hslot]

theorem use?_mutable_of_published (hslot : d.accessor.slot.object? = some object) :
    d.use? .mutable = some { d with
      editors := d.editors ++ [⟨d.accessor.layout, d.accessor.space, object.value⟩] } := by
  rw [use?, Accessor.mutable, Accessor.get_of_published d.accessor d.space hslot]

theorem use?_edit_of_published (hslot : d.accessor.slot.object? = some object)
    (sets : List (String × Datum F)) :
    let e : Editor F := ⟨d.accessor.layout, d.accessor.space, object.value⟩
    let (set, space) := e.setAll d.space sets
    d.use? (.edit sets) = some { d with
      accessor := (d.accessor.update space set).1
      space := (d.accessor.update space set).2 } := by
  rw [use?, Accessor.edit, Accessor.mutable, Accessor.get_of_published d.accessor d.space hslot]
  rfl

/-- Once an object is published, a use that publishes makes a new one, and any other use keeps it.
-/
theorem use?_slot (h : d.Coherent) (hslot : d.accessor.slot.object? = some object) {u : Use F}
    (hu : d.use? u = some next) :
    d.space.objects ≤ next.space.objects ∧
      ∃ later, next.accessor.slot.object? = some later ∧
        if u.publishes then d.space.objects ≤ later.serial else later = object := by
  have hget := Accessor.get_of_published d.accessor d.space hslot
  -- Only an update and an edit publish, and each publishes the next object of the space.
  cases u with
  | get | stateFlow | mapFlow =>
    obtain ⟨flow?, hub, flows, views, rfl⟩ := h.use?_asks rfl hu
    rw [hget]
    exact ⟨Nat.le_refl _, object, hslot, rfl⟩
  | mutable =>
    rw [use?_mutable_of_published hslot] at hu
    obtain rfl := Option.some.inj hu
    exact ⟨Nat.le_refl _, object, hslot, rfl⟩
  | set editor field value =>
    obtain ⟨e, -, rfl⟩ := use?_set_iff.1 hu
    exact ⟨Nat.le_refl _, object, hslot, rfl⟩
  | update editor =>
    obtain ⟨e, -, rfl⟩ := use?_update_iff.1 hu
    exact ⟨Nat.le_succ _, ⟨d.space.objects, e.values⟩, rfl, Nat.le_refl _⟩
  | edit sets =>
    let e : Editor F := ⟨d.accessor.layout, d.accessor.space, object.value⟩
    obtain ⟨engine, warnings, hspace⟩ := e.setAll_space sets d.space
    have hedit := use?_edit_of_published hslot sets
    dsimp only at hedit
    rw [hspace] at hedit
    obtain rfl := Option.some.inj (hedit.symm.trans hu)
    exact ⟨Nat.le_succ _, ⟨d.space.objects, (e.setAll d.space sets).1.values⟩, rfl, Nat.le_refl _⟩
  | elsewhere engine =>
    obtain rfl := Option.some.inj hu
    exact ⟨Nat.le_refl _, object, hslot, rfl⟩

theorem run?_slot (h : d.Coherent) (hslot : d.accessor.slot.object? = some object)
    {uses : List (Use F)} (hrun : d.run? uses = some next) :
    ∃ later, next.accessor.slot.object? = some later ∧
      if uses.any (·.publishes) then d.space.objects ≤ later.serial else later = object := by
  induction uses generalizing d object with
  | nil =>
    obtain rfl := Option.some.inj hrun
    exact ⟨object, hslot, rfl⟩
  | cons u rest ih =>
    obtain ⟨after, hu, hrest⟩ := Option.bind_eq_some_iff.1 hrun
    obtain ⟨hobjects, middle, hmiddle, hfirst⟩ := use?_slot h hslot hu
    obtain ⟨later, hlater, hothers⟩ := ih (h.use? hu) hmiddle hrest
    refine ⟨later, hlater, ?_⟩
    rw [List.any_cons]
    -- The object is the one that the last use that publishes made.
    cases hany : rest.any (·.publishes) with
    | true =>
      rw [hany, if_pos rfl] at hothers
      rw [Bool.or_true, if_pos rfl]
      exact Nat.le_trans hobjects hothers
    | false =>
      rw [hany] at hothers
      rw [Bool.or_false, (hothers : later = middle)]
      exact hfirst

end Published

end Desk

end TypedPreferences
