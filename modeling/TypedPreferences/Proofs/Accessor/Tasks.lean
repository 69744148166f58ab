import TypedPreferences.Accessor.Office
import TypedPreferences.Proofs.Accessor.Coherence
import TypedPreferences.Proofs.Accessor.Editing

/-! What a task does to the space that all benches share. It reads or writes the store of its own
declaration, it keeps every handle, and of the channels that were there it changes only those that
accessors of its bench keep flows of. -/

namespace TypedPreferences

theorem Engine.store_openNamespace (e : Engine) (id other : String) :
    (e.openNamespace id).store other = e.store other := by
  unfold openNamespace
  split
  · rfl
  · rename_i hnew
    rw [store, SortedMap.get?_insert, store]
    split
    · rename_i hsame
      have hnone : e.get? other = none := by
        rw [hsame]
        simpa [SortedMap.contains] using hnew
      rw [hnone]
      rfl
    · rfl

variable {F : Type} {l : Layout F} {id : String} {P : Nat → Prop} {w w' : Space F}

/-- Every handle of a flow leads where it led. -/
def Space.Keeps (w w' : Space F) : Prop :=
  ∀ flow c, w.hub.channelOf? flow = some c → w'.hub.channelOf? flow = some c

/-- An accessor of a declaration. If it keeps a flow, the channel of the flow is there, and of some
kind. -/
structure Accessor.Placed (l : Layout F) (id : String) (P : Nat → Prop) (w : Space F)
    (a : Accessor F) : Prop where
  layout : a.layout = l
  space : a.space = id
  kept : ∀ {flow}, a.flow? = some flow →
    ∃ c, w.hub.channelOf? flow = some c ∧ c < w.hub.channels.length ∧ P c

/-- A bench of a declaration. -/
structure Bench.Placed (l : Layout F) (id : String) (P : Nat → Prop) (w : Space F) (b : Bench F) :
    Prop where
  accessors : ∀ a ∈ b.accessors, a.Placed l id P w
  editors : ∀ e ∈ b.editors, e.layout = l ∧ e.space = id

/-- What happened to the store of a declaration: nothing, or it was read, or values were set. -/
inductive Layout.Touched (l : Layout F) (before : Store) : List (String × Datum F) → Store → Prop
  | kept : Touched l before [] before
  | read (warnings : List Warning) : Touched l before [] (l.decode ⟨before, warnings⟩).2.store
  | set (field : String) (value : Datum F) (warnings : List Warning) :
    Touched l before [(field, value)] (l.encode field value ⟨before, warnings⟩).store

/-- What a task of a declaration does to the space. -/
structure Space.Moves (l : Layout F) (id : String) (P : Nat → Prop) (sets : List (String × Datum F))
    (w w' : Space F) : Prop where
  own : l.Touched (w.engine.store id) sets (w'.engine.store id)
  others : ∀ other, other ≠ id → w'.engine.store other = w.engine.store other
  objects : w.objects ≤ w'.objects
  handles : w.Keeps w'
  channels : ∀ {i c}, ¬P i → w.hub.channels[i]? = some c → w'.hub.channels[i]? = some c
  length : w.hub.channels.length ≤ w'.hub.channels.length

namespace Space.Moves

variable {sets : List (String × Datum F)}

theorem of_store (hown : l.Touched (w.engine.store id) sets (w'.engine.store id))
    (hothers : ∀ other, other ≠ id → w'.engine.store other = w.engine.store other)
    (hobjects : w.objects ≤ w'.objects) (hhub : w'.hub = w.hub) : w.Moves l id P sets w' where
  own := hown
  others := hothers
  objects := hobjects
  handles _ _ h := by rwa [hhub]
  channels _ h := by rwa [hhub]
  length := Nat.le_of_eq (by rw [hhub])

theorem refl (w : Space F) : w.Moves l id P [] w :=
  of_store .kept (fun _ _ => rfl) (Nat.le_refl _) rfl

/-- The flows of a space that is moved may move further. -/
theorem withHub (h : w.Moves l id P sets w') {hub : Hub (Shared (Snapshot F)) (Datum F)}
    (hhandles : ∀ flow c, w.hub.channelOf? flow = some c → hub.channelOf? flow = some c)
    (hchannels : ∀ {i c}, ¬P i → w.hub.channels[i]? = some c → hub.channels[i]? = some c)
    (hlength : w.hub.channels.length ≤ hub.channels.length) :
    w.Moves l id P sets { w' with hub } where
  own := h.own
  others := h.others
  objects := h.objects
  handles := hhandles
  channels := hchannels
  length := hlength

end Space.Moves

namespace Accessor

variable {a : Accessor F}

theorem update_of_unasked (hflow : a.flow? = none) (e : Editor F) :
    a.update w e = ({ a with slot := ⟨some ⟨w.objects, e.values⟩⟩ },
      { w with objects := w.objects + 1 }) := by
  have hhub : (a.flow?.bind fun flow => w.hub.set? flow ⟨w.objects, e.values⟩).getD w.hub =
      w.hub := by rw [hflow, Option.bind_none, Option.getD_none]
  exact congrArg (fun hub => ({ a with slot := ⟨some ⟨w.objects, e.values⟩⟩ },
    { w with objects := w.objects + 1, hub })) hhub

theorem update_of_kept {flow c : Nat} (hflow : a.flow? = some flow)
    (hc : w.hub.channelOf? flow = some c) (e : Editor F) :
    a.update w e = ({ a with slot := ⟨some ⟨w.objects, e.values⟩⟩ },
      { w with
        objects := w.objects + 1
        hub := { w.hub with
          channels := w.hub.channels.modify c (·.set ⟨w.objects, e.values⟩) } }) := by
  have hhub : (a.flow?.bind fun flow => w.hub.set? flow ⟨w.objects, e.values⟩).getD w.hub =
      { w.hub with channels := w.hub.channels.modify c (·.set ⟨w.objects, e.values⟩) } := by
    rw [hflow, Option.bind_some, Hub.set?, hc, Option.map_some, Option.getD_some]
  exact congrArg (fun hub => ({ a with slot := ⟨some ⟨w.objects, e.values⟩⟩ },
    { w with objects := w.objects + 1, hub })) hhub

end Accessor

theorem Accessor.Placed.mono {a : Accessor F} (h : a.Placed l id P w) {Q : Nat → Prop}
    (hhandles : w.Keeps w') (hlength : w.hub.channels.length ≤ w'.hub.channels.length)
    (hkinds : ∀ c, c < w.hub.channels.length → P c → Q c) : a.Placed l id Q w' where
  layout := h.layout
  space := h.space
  kept hflow := by
    obtain ⟨c, hc, hlt, hP⟩ := h.kept hflow
    exact ⟨c, hhandles _ _ hc, Nat.lt_of_lt_of_le hlt hlength, hkinds c hlt hP⟩

namespace Accessor.Placed

variable {a : Accessor F}

theorem get (h : a.Placed l id P w) :
    w.Moves l id P [] (a.get w).2.2 ∧ (a.get w).2.1.Placed l id P (a.get w).2.2 := by
  cases hslot : a.slot.object? with
  | some object =>
    rw [get_of_published a w hslot]
    exact ⟨.refl w, h⟩
  | none =>
    rw [get_of_unpublished a w hslot]
    refine ⟨.of_store ?_ ?_ (Nat.le_succ _) rfl, h.layout, h.space, h.kept⟩
    · have hread := @Layout.Touched.read _ l (w.engine.store id) w.warnings
      have hstore : (w.engine.setStore id (l.decode (w.shelf id)).2.store).store id =
          (l.decode (w.shelf id)).2.store := (Engine.store_setStore _ _ _ _).trans (if_pos rfl)
      dsimp only
      rw [h.layout, h.space, hstore]
      exact hread
    · intro other hother
      rw [h.space]
      exact (Engine.store_setStore _ _ _ _).trans (if_neg hother)

theorem update (h : a.Placed l id P w) (e : Editor F) :
    w.Moves l id P [] (a.update w e).2 ∧ (a.update w e).1.Placed l id P (a.update w e).2 := by
  have hmoves : w.Moves l id P [] { w with objects := w.objects + 1 } :=
    .of_store .kept (fun _ _ => rfl) (Nat.le_succ _) rfl
  cases hflow : a.flow? with
  | none =>
    rw [update_of_unasked hflow]
    refine ⟨hmoves, h.layout, h.space, fun {flow} hkept => ?_⟩
    cases hflow.symm.trans hkept
  | some flow =>
    obtain ⟨c, hc, hlt, hP⟩ := h.kept hflow
    have hlength : (w.hub.channels.modify c (·.set ⟨w.objects, e.values⟩)).length =
        w.hub.channels.length := List.length_modify ..
    rw [update_of_kept hflow hc]
    refine ⟨hmoves.withHub (fun _ _ hold => hold) (fun {i d} hi hd => ?_) (Nat.le_of_eq hlength.symm),
      h.layout, h.space, fun {kept} hkept => ?_⟩
    · have hne : c ≠ i := fun hsame => hi (hsame ▸ hP)
      exact (List.getElem?_modify_ne _ _ hne).trans hd
    · obtain ⟨d, hd, hlt', hP'⟩ := h.kept hkept
      exact ⟨d, hd, Nat.lt_of_lt_of_eq hlt' hlength.symm, hP'⟩

theorem stateFlow (h : a.Placed l id P w) (hfresh : ∀ c, w.hub.channels.length ≤ c → P c) :
    w.Moves l id P [] (a.stateFlow w).2.2 ∧
      (a.stateFlow w).2.1.Placed l id P (a.stateFlow w).2.2 := by
  cases hflow : a.flow? with
  | some kept =>
    -- A handle of the flow that is kept is cloned: no channel is made, and nothing is told.
    obtain ⟨c, hc, -, -⟩ := h.kept hflow
    have hstate : a.stateFlow w = (w.hub.flows.length, a,
        { w with hub := { w.hub with flows := w.hub.flows ++ [some c] } }) := by
      rw [Accessor.stateFlow, hflow, Option.bind_some, Hub.cloneFlow?_of_channelOf? hc]
    have hmoves : w.Moves l id P [] (a.stateFlow w).2.2 := by
      rw [hstate]
      exact (Space.Moves.refl w).withHub (fun _ _ hold => Hub.channelOf?_before_added hold _)
        (fun _ hd => hd) (Nat.le_refl _)
    refine ⟨hmoves, ?_⟩
    rw [hstate] at hmoves ⊢
    exact h.mono hmoves.handles hmoves.length fun _ _ hP => hP
  | none =>
    -- The flow is made now, after a read, in the next channel of the hub.
    obtain ⟨hget, hplaced⟩ := h.get
    have hstate := Coherent.stateFlow_of_unasked (w := w) hflow
    obtain ⟨hkept, -⟩ := w.hub.channelOf?_createShared (a.get w).1
    have hmoves : w.Moves l id P [] (a.stateFlow w).2.2 := by
      rw [hstate]
      refine hget.withHub (fun _ _ hold => ?_) (fun {i d} _ hd => ?_) ?_
      · exact Hub.channelOf?_before_added (Hub.channelOf?_before_added hold _) _
      · rw [Hub.createShared, List.getElem?_append_left (List.getElem?_eq_some_iff.1 hd).1]
        exact hd
      · rw [Hub.createShared, List.length_append]
        exact Nat.le_add_right _ _
    refine ⟨hmoves, ?_⟩
    rw [hstate]
    refine ⟨hplaced.layout, hplaced.space, fun {flow} hflow' => ?_⟩
    obtain rfl : w.hub.flows.length = flow := Option.some.inj hflow'
    refine ⟨w.hub.channels.length, hkept, ?_, hfresh _ (Nat.le_refl _)⟩
    rw [Hub.createShared, List.length_append]
    exact Nat.lt_succ_self _

end Accessor.Placed

theorem mem_or_of_mem_set {α : Type} {xs : List α} {i : Nat} {y : α} {Q : α → Prop} (hy : Q y) :
    ∀ x ∈ xs.set i y, x ∈ xs ∨ Q x := by
  intro x hx
  rcases List.mem_or_eq_of_mem_set hx with hold | rfl
  · exact .inl hold
  · exact .inr hy

namespace Bench.Placed

variable {b b' : Bench F} {sets : List (String × Datum F)}

theorem empty (l : Layout F) (id : String) (P : Nat → Prop) (w : Space F) :
    ({} : Bench F).Placed l id P w where
  accessors a ha := by cases ha
  editors e he := by cases he

/-- What stands at a bench stays of its declaration; what is added has to be. -/
theorem moved (h : b.Placed l id P w) (hmoves : w.Moves l id P sets w')
    (haccessors : ∀ a ∈ b'.accessors, a ∈ b.accessors ∨ a.Placed l id P w')
    (heditors : ∀ e ∈ b'.editors, e ∈ b.editors ∨ e.layout = l ∧ e.space = id) :
    b'.Placed l id P w' where
  accessors a ha := by
    rcases haccessors a ha with hold | hnew
    · exact (h.accessors a hold).mono hmoves.handles hmoves.length fun _ _ hP => hP
    · exact hnew
  editors e he := by
    rcases heditors e he with hold | hnew
    · exact h.editors e hold
    · exact hnew

theorem mono (h : b.Placed l id P w) {Q : Nat → Prop}
    (hhandles : w.Keeps w') (hlength : w.hub.channels.length ≤ w'.hub.channels.length)
    (hkinds : ∀ c, c < w.hub.channels.length → P c → Q c) : b.Placed l id Q w' where
  accessors a ha := (h.accessors a ha).mono hhandles hlength hkinds
  editors := h.editors

/-- A task of a declaration moves the space as one of this declaration, and leaves a bench of it. -/
theorem use? (h : b.Placed l id P w) (hfresh : ∀ c, w.hub.channels.length ≤ c → P c) {task : Task F}
    (hu : b.use? l id w task = some (b', w')) :
    w.Moves l id P task.sets w' ∧ b'.Placed l id P w' := by
  -- By the task: the space moves as the accessor or the editor moves it, and the bench keeps both.
  cases task with
  | openAccessor =>
    obtain ⟨rfl, rfl⟩ := Prod.mk.inj (Option.some.inj hu)
    have hmoves : w.Moves l id P [] { w with engine := w.engine.openNamespace id } := by
      refine .of_store ?_ (fun _ _ => Engine.store_openNamespace _ _ _) (Nat.le_refl _) rfl
      rw [Engine.store_openNamespace]
      exact .kept
    refine ⟨hmoves, h.moved hmoves (fun a ha => ?_) fun e he => .inl he⟩
    rcases List.mem_append.1 ha with hold | hnew
    · exact .inl hold
    · obtain rfl := List.mem_singleton.1 hnew
      exact .inr ⟨rfl, rfl, fun hflow => by cases hflow⟩
  | get accessor =>
    obtain ⟨a, ha, hgiven⟩ := Option.bind_eq_some_iff.1 hu
    obtain ⟨rfl, rfl⟩ := Prod.mk.inj (Option.some.inj hgiven)
    obtain ⟨hmoves, hplaced⟩ := (h.accessors a (List.mem_of_getElem? ha)).get
    exact ⟨hmoves, h.moved hmoves (mem_or_of_mem_set hplaced) fun e he => .inl he⟩
  | mutable accessor =>
    obtain ⟨a, ha, hgiven⟩ := Option.bind_eq_some_iff.1 hu
    obtain ⟨rfl, rfl⟩ := Prod.mk.inj (Option.some.inj hgiven)
    have hold := h.accessors a (List.mem_of_getElem? ha)
    obtain ⟨hmoves, hplaced⟩ := hold.get
    refine ⟨hmoves, h.moved hmoves (mem_or_of_mem_set hplaced) fun e he => ?_⟩
    rcases List.mem_append.1 he with hthere | hnew
    · exact .inl hthere
    · obtain rfl := List.mem_singleton.1 hnew
      exact .inr ⟨hplaced.layout, hplaced.space⟩
  | set editor field value =>
    obtain ⟨e, he, hgiven⟩ := Option.bind_eq_some_iff.1 hu
    obtain ⟨rfl, rfl⟩ := Prod.mk.inj (Option.some.inj hgiven)
    obtain ⟨hlayout, hspace⟩ := h.editors e (List.mem_of_getElem? he)
    have hmoves : w.Moves l id P [(field, value)] (e.set w field value).2 := by
      have hset := @Layout.Touched.set _ l (w.engine.store id) field value w.warnings
      have hstore : (e.set w field value).2.engine.store id =
          (l.encode field value ⟨w.engine.store id, w.warnings⟩).store := by
        rw [← hlayout, ← hspace]
        exact congrArg Shelf.store (e.set_shelf w field value)
      refine .of_store (hstore ▸ hset) (fun other hother => ?_) (Nat.le_refl _) rfl
      rw [← hspace] at hother
      exact (Engine.store_setStore _ _ _ _).trans (if_neg hother)
    exact ⟨hmoves, h.moved hmoves (fun a ha => .inl ha) (mem_or_of_mem_set ⟨hlayout, hspace⟩)⟩
  | update accessor editor =>
    obtain ⟨a, ha, hrest⟩ := Option.bind_eq_some_iff.1 hu
    obtain ⟨e, -, hgiven⟩ := Option.bind_eq_some_iff.1 hrest
    obtain ⟨rfl, rfl⟩ := Prod.mk.inj (Option.some.inj hgiven)
    obtain ⟨hmoves, hplaced⟩ := (h.accessors a (List.mem_of_getElem? ha)).update e
    exact ⟨hmoves, h.moved hmoves (mem_or_of_mem_set hplaced) fun e he => .inl he⟩
  | stateFlow accessor =>
    obtain ⟨a, ha, hgiven⟩ := Option.bind_eq_some_iff.1 hu
    obtain ⟨rfl, rfl⟩ := Prod.mk.inj (Option.some.inj hgiven)
    obtain ⟨hmoves, hplaced⟩ := (h.accessors a (List.mem_of_getElem? ha)).stateFlow hfresh
    exact ⟨hmoves, h.moved hmoves (mem_or_of_mem_set hplaced) fun e he => .inl he⟩
  | flowValue flow =>
    obtain ⟨handle, -, hrest⟩ := Option.bind_eq_some_iff.1 hu
    obtain ⟨object, -, hgiven⟩ := Option.bind_eq_some_iff.1 hrest
    obtain ⟨rfl, rfl⟩ := Prod.mk.inj (Option.some.inj hgiven)
    exact ⟨.refl w, h.moved (.refl w) (fun a ha => .inl ha) fun e he => .inl he⟩

end Bench.Placed

end TypedPreferences
