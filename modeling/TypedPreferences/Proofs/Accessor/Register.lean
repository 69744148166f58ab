import TypedPreferences.Proofs.Accessor.Runs
import TypedPreferences.Proofs.Samples.Planned

/-! An accessor and its editors as registers: one that is shown, and one for each editor. Nothing
that a desk does with its published object, its editors' copies and the store goes beyond this. -/

namespace TypedPreferences

/-- What an accessor shows, and what each of its editors holds. -/
structure Register (F : Type) where
  shown : Snapshot F
  held : List (Snapshot F) := []

namespace Register

variable {F : Type}

/-- A use of the registers. An editor begins with what is shown, setting a value is between an
editor and its register, and publishing shows what an editor holds at that time. -/
def use (r : Register F) : Use F → Register F
  | .mutable => { r with held := r.held ++ [r.shown] }
  | .set editor field value => { r with held := r.held.modify editor (·.set field value) }
  | .update editor => { r with shown := r.held[editor]?.getD r.shown }
  | .edit sets => { r with shown := r.shown.setAll sets }
  | .get | .stateFlow | .mapFlow _ | .elsewhere _ => r

end Register

namespace Desk

variable {F : Type} {l : Layout F} {id : String} {w : Space F}
variable {r : Register F} {calls : List (String × Datum F)} {d next : Desk F}

theorem exists_use?_get (d : Desk F) :
    ∃ read object, d.use? .get = some read ∧ read.accessor.slot.object? = some object :=
  ⟨_, _, rfl, Accessor.published_get d.accessor d.space⟩

/-- To read first makes no difference to an editor that is opened. -/
theorem use?_mutable_of_read {read : Desk F} (hread : d.use? .get = some read) :
    d.use? .mutable = read.use? .mutable := by
  rw [use?_get] at hread
  obtain rfl := Option.some.inj hread
  have hagain := Accessor.get_of_published _ (d.accessor.get d.space).2.2
    (Accessor.published_get d.accessor d.space)
  simp only [use?, Accessor.mutable, hagain]

theorem use?_edit_of_read {read : Desk F} (hread : d.use? .get = some read)
    (sets : List (String × Datum F)) : d.use? (.edit sets) = read.use? (.edit sets) := by
  rw [use?_get] at hread
  obtain rfl := Option.some.inj hread
  have hagain := Accessor.get_of_published _ (d.accessor.get d.space).2.2
    (Accessor.published_get d.accessor d.space)
  simp only [use?, Accessor.edit, Accessor.mutable, hagain]

/-- A desk that was opened in a space shows what the registers hold, and its store is what reading
and all calls since have left. -/
structure Shows (l : Layout F) (id : String) (w : Space F) (r : Register F)
    (calls : List (String × Datum F)) (d : Desk F) : Prop where
  coherent : d.Coherent
  layout : d.accessor.layout = l
  space : d.accessor.space = id
  editors : d.editors = r.held.map fun values => ⟨l, id, values⟩
  others : ∀ other, other ≠ id → d.space.engine.store other = w.engine.store other
  unread : d.accessor.slot.object? = none →
    d.editors = [] ∧ calls = [] ∧ r.shown = (l.decode (w.shelf id)).1 ∧
      d.space.shelf id = w.shelf id
  read : ∀ object, d.accessor.slot.object? = some object →
    object.value = r.shown ∧ d.space.shelf id = l.encodeAll calls (l.decode (w.shelf id)).2

namespace Shows

theorem opened (l : Layout F) (id : String) (w : Space F) :
    (Desk.opened l id w).Shows l id w ⟨(l.decode (w.shelf id)).1, []⟩ [] where
  coherent := Coherent.opened l id w
  layout := rfl
  space := rfl
  editors := rfl
  others _ _ := rfl
  unread _ := ⟨rfl, rfl, rfl, rfl⟩
  read object h := by cases h

theorem get (h : d.Shows l id w r calls) (hu : d.use? .get = some next) :
    next.Shows l id w r calls := by
  cases hslot : d.accessor.slot.object? with
  | some object =>
    obtain rfl := Option.some.inj ((use?_get_of_published hslot).symm.trans hu)
    exact h
  | none =>
    have hnext := h.coherent.use? hu
    -- Until the first read nothing was set, so the shelf is as it was at the start.
    obtain ⟨hnone, rfl, hshown, hshelf⟩ := h.unread hslot
    have hvalues : d.accessor.layout.decode (d.space.shelf d.accessor.space) =
        l.decode (w.shelf id) := by
      rw [h.layout, h.space, hshelf]
    have hget := Accessor.get_of_unpublished d.accessor d.space hslot
    rw [hvalues, h.space] at hget
    rw [Desk.use?, hget] at hu
    obtain rfl := Option.some.inj hu
    refine ⟨hnext, h.layout, rfl, h.editors, ?_, ?_, ?_⟩
    · intro other hother
      exact (Engine.store_setStore _ _ _ _).trans ((if_neg hother).trans (h.others other hother))
    · intro hunread
      cases hunread
    · intro object hobject
      obtain rfl := Option.some.inj hobject
      refine ⟨hshown.symm, ?_⟩
      have hstore := (Engine.store_setStore d.space.engine id (l.decode (w.shelf id)).2.store id).trans
        (if_pos rfl)
      exact congrArg (Shelf.mk · (l.decode (w.shelf id)).2.warnings) hstore

/-- An editor that is there holds its register, and was opened on an object. -/
theorem exists_of_editor (h : d.Shows l id w r calls) {editor : Nat} {e : Editor F}
    (he : d.editors[editor]? = some e) :
    (∃ object, d.accessor.slot.object? = some object) ∧
      ∃ values, r.held[editor]? = some values ∧ e = ⟨l, id, values⟩ := by
  refine ⟨?_, ?_⟩
  · cases hslot : d.accessor.slot.object? with
    | some object => exact ⟨object, rfl⟩
    | none =>
      obtain ⟨hnone, -⟩ := h.unread hslot
      rw [hnone] at he
      cases he
  · rw [h.editors, List.getElem?_map] at he
    obtain ⟨values, hheld, heq⟩ := Option.map_eq_some_iff.1 he
    exact ⟨values, hheld, heq.symm⟩

theorem set (h : d.Shows l id w r calls) {editor : Nat} {field : String} {value : Datum F}
    (hu : d.use? (.set editor field value) = some next) :
    next.Shows l id w (r.use (.set editor field value)) (calls ++ [(field, value)]) := by
  have hnext := h.coherent.use? hu
  obtain ⟨e, he, rfl⟩ := use?_set_iff.1 hu
  obtain ⟨⟨object, hslot⟩, values, hheld, rfl⟩ := h.exists_of_editor he
  obtain ⟨hobject, hshelf⟩ := h.read object hslot
  refine ⟨hnext, h.layout, h.space, ?_, ?_, ?_, ?_⟩
  · change d.editors.set editor ⟨l, id, values.set field value⟩ =
      (r.held.modify editor (·.set field value)).map _
    rw [h.editors, List.modify_eq_set_getElem?, hheld]
    exact List.map_set.symm
  · intro other hother
    exact (Engine.store_setStore _ _ _ _).trans ((if_neg hother).trans (h.others other hother))
  · intro hunread
    rw [hslot] at hunread
    cases hunread
  · intro published hpublished
    obtain rfl := Option.some.inj (hslot.symm.trans hpublished)
    refine ⟨hobject, ?_⟩
    have hset := Editor.set_shelf ⟨l, id, values⟩ d.space field value
    rw [hshelf] at hset
    rw [Layout.encodeAll_append]
    exact hset

theorem update (h : d.Shows l id w r calls) {editor : Nat}
    (hu : d.use? (.update editor) = some next) :
    next.Shows l id w (r.use (.update editor)) calls := by
  have hnext := h.coherent.use? hu
  obtain ⟨e, he, rfl⟩ := use?_update_iff.1 hu
  obtain ⟨⟨object, hslot⟩, values, hheld, rfl⟩ := h.exists_of_editor he
  obtain ⟨-, hshelf⟩ := h.read object hslot
  refine ⟨hnext, h.layout, h.space, h.editors, h.others, ?_, ?_⟩
  · intro hunread
    cases hunread
  · intro published hpublished
    obtain rfl := Option.some.inj hpublished
    refine ⟨?_, hshelf⟩
    change values = r.held[editor]?.getD r.shown
    rw [hheld, Option.getD_some]

theorem edit (h : d.Shows l id w r calls) {sets : List (String × Datum F)}
    (hu : d.use? (.edit sets) = some next) :
    next.Shows l id w (r.use (.edit sets)) (calls ++ sets) := by
  have hnext := h.coherent.use? hu
  obtain ⟨first, object, hfirst, hslot⟩ := d.exists_use?_get
  have hshows := h.get hfirst
  obtain ⟨hobject, hshelf⟩ := hshows.read object hslot
  -- An edit is an editor that is opened after a read, called and published, and then dropped.
  let e : Editor F := ⟨l, id, r.shown⟩
  have hedit := use?_edit_of_published hslot sets
  rw [hshows.layout, hshows.space, hobject] at hedit
  rw [use?_edit_of_read hfirst] at hu
  obtain rfl := Option.some.inj (hedit.symm.trans hu)
  refine ⟨hnext, hshows.layout, hshows.space, hshows.editors, ?_, ?_, ?_⟩
  · intro other hother
    exact (e.setAll_store_of_ne sets first.space hother).trans (hshows.others other hother)
  · intro hunread
    cases hunread
  · intro published hpublished
    obtain rfl := Option.some.inj hpublished
    refine ⟨?_, ?_⟩
    · exact congrArg Editor.values (e.setAll_editor sets first.space)
    · rw [Layout.encodeAll_append, ← hshelf]
      exact e.setAll_shelf sets first.space

theorem use? (h : d.Shows l id w r calls) {u : Use F} (hown : u.isElsewhere = false)
    (hu : d.use? u = some next) : next.Shows l id w (r.use u) (calls ++ u.sets) := by
  have hnext := h.coherent.use? hu
  -- A read changes nothing that is shown, so every use may be taken to come after one.
  obtain ⟨first, object, hfirst, hslot⟩ := d.exists_use?_get
  have hshows := h.get hfirst
  cases u with
  | get | stateFlow | mapFlow =>
    obtain ⟨flow?, hub, flows, views, rfl⟩ := h.coherent.use?_asks rfl hu
    obtain rfl := Option.some.inj hfirst
    have hafter := hshows
    rw [← List.append_nil calls] at hafter
    exact ⟨hnext, hafter.layout, hafter.space, hafter.editors, hafter.others, hafter.unread,
      hafter.read⟩
  | mutable =>
    change next.Shows l id w (r.use .mutable) (calls ++ [])
    rw [List.append_nil]
    obtain ⟨hobject, -⟩ := hshows.read object hslot
    rw [use?_mutable_of_read hfirst, use?_mutable_of_published hslot] at hu
    obtain rfl := Option.some.inj hu
    refine ⟨hnext, hshows.layout, hshows.space, ?_, hshows.others, ?_, hshows.read⟩
    · rw [hshows.layout, hshows.space, hobject, hshows.editors, Register.use, List.map_append]
      rfl
    · intro hunread
      rw [hslot] at hunread
      cases hunread
  | set editor field value => exact h.set hu
  | update editor =>
    have hafter := h.update hu
    rw [← List.append_nil calls] at hafter
    exact hafter
  | edit sets => exact h.edit hu
  | elsewhere engine => cases hown

theorem run? (h : d.Shows l id w r calls) {uses : List (Use F)}
    (hown : ∀ u ∈ uses, u.isElsewhere = false) (hrun : d.run? uses = some next) :
    next.Shows l id w (uses.foldl Register.use r) (calls ++ uses.flatMap Use.sets) := by
  induction uses generalizing d r calls with
  | nil =>
    obtain rfl := Option.some.inj hrun
    rw [List.flatMap_nil, List.append_nil]
    exact h
  | cons u rest ih =>
    obtain ⟨after, hu, hrest⟩ := Option.bind_eq_some_iff.1 hrun
    have hafter := h.use? (hown u List.mem_cons_self) hu
    rw [List.flatMap_cons, ← List.append_assoc]
    exact ih hafter (fun v hv => hown v (List.mem_cons_of_mem u hv)) hrest

/-- Whatever is done with an accessor first, it reads the store for it. -/
theorem exists_object (h : d.Shows l id w r calls) {u : Use F} (hown : u.isElsewhere = false)
    (hu : d.use? u = some next) : ∃ object, next.accessor.slot.object? = some object := by
  have hread := Accessor.published_get d.accessor d.space
  cases u with
  | get | stateFlow | mapFlow =>
    obtain ⟨flow?, hub, flows, views, rfl⟩ := h.coherent.use?_asks rfl hu
    exact ⟨_, hread⟩
  | mutable =>
    obtain rfl := Option.some.inj hu
    exact ⟨_, hread⟩
  | set editor field value =>
    obtain ⟨e, he, rfl⟩ := use?_set_iff.1 hu
    obtain ⟨hobject, -⟩ := h.exists_of_editor he
    exact hobject
  | update editor =>
    obtain ⟨e, -, rfl⟩ := use?_update_iff.1 hu
    exact ⟨_, rfl⟩
  | edit sets =>
    obtain rfl := Option.some.inj hu
    exact ⟨_, rfl⟩
  | elsewhere engine => cases hown

theorem object_eq (h : d.Shows l id w r calls) : d.object.value = r.shown := by
  obtain ⟨first, object, hfirst, hslot⟩ := d.exists_use?_get
  obtain ⟨hobject, -⟩ := (h.get hfirst).read object hslot
  obtain rfl := Option.some.inj hfirst
  have hsame : object = d.object :=
    Option.some.inj (hslot.symm.trans (Accessor.published_get d.accessor d.space))
  rw [← hsame, hobject]

end Shows

/-- The store of a run is the one that the first read left, with all calls written to it; as long as
nothing was done it is as it was. -/
theorem shelf_of_run {uses : List (Use F)} (hown : ∀ u ∈ uses, u.isElsewhere = false)
    (hrun : (opened l id w).run? uses = some d) :
    d.space.shelf id = l.encodeAll (uses.flatMap Use.sets)
      (if uses.isEmpty then w.shelf id else (l.decode (w.shelf id)).2) := by
  have hopened := Shows.opened l id w
  have hshows := hopened.run? hown hrun
  cases uses with
  | nil =>
    obtain rfl := Option.some.inj hrun
    rfl
  | cons u rest =>
    obtain ⟨after, hu, hrest⟩ := Option.bind_eq_some_iff.1 hrun
    have hfirst : u.isElsewhere = false := hown u List.mem_cons_self
    obtain ⟨object, hslot⟩ := hopened.exists_object hfirst hu
    obtain ⟨later, hlater, -⟩ := run?_slot (hopened.coherent.use? hu) hslot hrest
    exact (hshows.read later hlater).2

/-- An accessor and its editors are registers. What is shown is what reading the store gave, until
an editor is published, and then what this editor held at that time. An editor holds what was shown
when it was opened, overwritten by its own calls. The entry of a field is what writing the value of
its last call left, by whichever editor, or what reading left, or what there was before that. -/
theorem refines_register {c : Context} {declaration : Declaration}
    (h : l.IsPlanned c declaration) {uses : List (Use F)}
    (hown : ∀ u ∈ uses, u.isElsewhere = false) (hrun : (opened l id w).run? uses = some d) :
    let first := l.decode (w.shelf id)
    let register := uses.foldl Register.use ⟨first.1, []⟩
    let calls := uses.flatMap Use.sets
    let settled := if uses.isEmpty then w.shelf id else first.2
    let after := d.space.engine.store
    (d.object.value = register.shown ∧ d.editors.map (·.values) = register.held) ∧
      (∀ f ∈ l.fields,
        (f.name ∉ calls.map (·.1) → (after id).get? f.name = settled.store.get? f.name) ∧
        ∀ earlier value later, calls = earlier ++ (f.name, value) :: later →
          f.name ∉ later.map (·.1) →
          (after id).get? f.name =
            (l.meaning.encode f.plan.field f.plan.encode value
              (l.encodeAll earlier settled)).store.get? f.name) ∧
      (∀ key, (∀ f ∈ l.fields, f.name ≠ key) →
        (after id).get? key = (w.engine.store id).get? key) ∧
      ∀ other, other ≠ id → after other = w.engine.store other := by
  intro first register calls settled after
  have hshows : d.Shows l id w register calls := (Shows.opened l id w).run? hown hrun
  -- The shelf is told of by the calls alone; which editor made them has no part in it.
  have hshelf : d.space.shelf id = l.encodeAll calls settled := shelf_of_run hown hrun
  have hstore : after id = (l.encodeAll calls settled).store := congrArg Shelf.store hshelf
  refine ⟨⟨hshows.object_eq, ?_⟩, ?_, ?_, hshows.others⟩
  · rw [hshows.editors, List.map_map]
    exact List.map_id _
  · intro f hf
    refine ⟨?_, ?_⟩
    · intro hnot
      rw [hstore, l.encodeAll_entry_of_not_mem hnot]
    · intro earlier value later hcalls hlater
      rw [hstore, hcalls, l.encodeAll_entry_last earlier f.name value hlater, h.encode_name hf]
  · intro key hkey
    rw [hstore, l.encodeAll_entry_of_forall_ne calls settled hkey]
    cases uses with
    | nil => rfl
    | cons u rest => exact Layout.decode_entry_of_forall_ne h hkey (w.shelf id)

open Samples in
/-- The first editor goes on after it was published. What is shown stays, its own register and the
store follow it, and the second editor knows nothing of it. -/
theorem refines_register_primitiveData :
    let uses : List (Use Foreign) :=
      [.mutable, .mutable, .set 0 "count" (value .integer (7 : Int32)), .update 0,
        .set 0 "count" (value .integer (9 : Int32))]
    let count (values : Snapshot Foreign) := values.value? "count"
    ∃ d, (opened primitiveData.layout "primitive" {}).run? uses = some d ∧
      count d.object.value = some (value .integer (7 : Int32)) ∧
      (d.editors.map fun e => count e.values) =
        [some (value .integer (9 : Int32)), some (value .integer (42 : Int32))] ∧
      (d.space.engine.store "primitive").get? "count" = some ⟨.integer, (9 : Int32)⟩ := by
  intro uses count
  have hown : ∀ u ∈ uses, u.isElsewhere = false := by
    intro u hu
    simp only [uses, List.mem_cons, List.not_mem_nil, or_false] at hu
    rcases hu with rfl | rfl | rfl | rfl | rfl <;> rfl
  obtain ⟨d, hrun⟩ : ∃ d, (opened primitiveData.layout "primitive" {}).run? uses = some d := ⟨_, rfl⟩
  let f : LiveField Foreign :=
    ⟨.ofKind (SampleField.declared ⟨"count", plain "i32", true, value .integer (42 : Int32)⟩)
      (.primitive .integer), value .integer (42 : Int32)⟩
  have hf : f ∈ primitiveData.layout.fields := List.mem_of_getElem? (i := 1) rfl
  obtain ⟨⟨hshown, hheld⟩, hfields, -, -⟩ := refines_register isPlanned_primitiveData hown hrun
  obtain ⟨-, hlast⟩ := hfields f hf
  refine ⟨d, hrun, ?_, ?_, ?_⟩
  · rw [hshown]
    rfl
  · have hcounts : (d.editors.map fun e => count e.values) =
        (d.editors.map (·.values)).map count := by
      rw [List.map_map]
      rfl
    rw [hcounts, hheld]
    rfl
  · have hentry := hlast [("count", value .integer (7 : Int32))] (value .integer (9 : Int32)) [] rfl
      List.not_mem_nil
    have hwritten := primitiveData.layout.meaning.get?_encode f.plan.field (.primitive .integer)
      (value .integer (9 : Int32))
    exact hentry.trans ((hwritten _).trans rfl)

end Desk

end TypedPreferences
