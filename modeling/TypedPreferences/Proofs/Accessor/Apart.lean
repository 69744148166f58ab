import TypedPreferences.Proofs.Accessor.Mirrors

/-! Declarations do not interfere. A run at several benches is followed, for one declaration, by the
run of its own tasks alone. Tasks of other declarations leave its store alone, and change no channel
of its accessors. -/

namespace TypedPreferences

variable {F : Type} {objects channels : Nat → Nat → Prop} {id : String} {w v : Space F}

namespace Bench

variable {b : Bench F} {place : Nat} {a : Accessor F} {e : Editor F}
variable (l : Layout F) (id : String) (w : Space F)

/-! What the tasks do with the accessor, the editor or the flow that they name. -/

theorem use?_get (ha : b.accessors[place]? = some a) :
    b.use? l id w (.get place) = some ({ b with
      accessors := b.accessors.set place (a.get w).2.1
      shown := b.shown ++ [(a.get w).1] }, (a.get w).2.2) :=
  Option.bind_eq_some_iff.2 ⟨a, ha, rfl⟩

theorem use?_mutable (ha : b.accessors[place]? = some a) :
    b.use? l id w (.mutable place) = some ({ b with
      accessors := b.accessors.set place (a.get w).2.1
      editors := b.editors ++ [⟨(a.get w).2.1.layout, (a.get w).2.1.space, (a.get w).1.value⟩] },
      (a.get w).2.2) :=
  Option.bind_eq_some_iff.2 ⟨a, ha, rfl⟩

theorem use?_set (he : b.editors[place]? = some e) (field : String) (value : Datum F) :
    b.use? l id w (.set place field value) = some ({ b with
      editors := b.editors.set place (e.set w field value).1 }, (e.set w field value).2) :=
  Option.bind_eq_some_iff.2 ⟨e, he, rfl⟩

theorem use?_update {editor : Nat} (ha : b.accessors[place]? = some a)
    (he : b.editors[editor]? = some e) :
    b.use? l id w (.update place editor) = some ({ b with
      accessors := b.accessors.set place (a.update w e).1 }, (a.update w e).2) :=
  Option.bind_eq_some_iff.2 ⟨a, ha, Option.bind_eq_some_iff.2 ⟨e, he, rfl⟩⟩

theorem use?_stateFlow (ha : b.accessors[place]? = some a) :
    b.use? l id w (.stateFlow place) = some ({ b with
      accessors := b.accessors.set place (a.stateFlow w).2.1
      flows := b.flows ++ [(a.stateFlow w).1] }, (a.stateFlow w).2.2) :=
  Option.bind_eq_some_iff.2 ⟨a, ha, rfl⟩

theorem use?_flowValue {flow : Nat} {object : Shared (Snapshot F)}
    (hflow : b.flows[place]? = some flow) (hobject : w.hub.value? flow = some object) :
    b.use? l id w (.flowValue place) = some ({ b with shown := b.shown ++ [object] }, w) :=
  Option.bind_eq_some_iff.2 ⟨flow, hflow, Option.bind_eq_some_iff.2 ⟨object, hobject, rfl⟩⟩

end Bench

namespace Bench.Mirrors

variable {b c : Bench F}

theorem empty (w v : Space F) : ({} : Bench F).Mirrors objects channels w v {} where
  accessors := .nil
  editors := rfl
  flows := .nil
  shown := .nil

/-- What a task does at one of two benches that mirror each other it does at the other. A channel
that is paired then was made by the task, if it was not paired before. -/
theorem use? {l : Layout F} (hspaces : w.Mirrors objects channels id v)
    (h : b.Mirrors objects channels w v c) (hplaced : b.Placed l id (fun _ => True) w)
    (hplaced' : c.Placed l id (fun _ => True) v) {task : Task F} {b' : Bench F} {w' : Space F}
    (hu : b.use? l id w task = some (b', w')) :
    ∃ (c' : Bench F) (v' : Space F) (objects' channels' : Nat → Nat → Prop),
      c.use? l id v task = some (c', v') ∧
      (∀ {i j}, channels' i j → channels i j ∨ w.hub.channels.length ≤ i) ∧
      w'.Mirrors objects' channels' id v' ∧ b'.Mirrors objects' channels' w' v' c' := by
  -- Handles that were given before lead to the same channels after the task.
  have hkeeps : w.Keeps w' := (hplaced.use? (fun _ _ => trivial) hu).1.handles
  have hkeeps' {c' : Bench F} {v' : Space F} (hu' : c.use? l id v task = some (c', v')) :
      v.Keeps v' := (hplaced'.use? (fun _ _ => trivial) hu').1.handles
  cases task with
  | openAccessor =>
    obtain ⟨rfl, rfl⟩ := Prod.mk.inj (Option.some.inj hu)
    have hold := h.mono (fun hpair => hpair) (fun hpair => hpair) hkeeps (hkeeps' rfl)
    refine ⟨_, _, objects, channels, rfl, .inl, ?_, ?_⟩
    · refine hspaces.of_hub_eq ?_ rfl rfl (fun hpair => hpair) hspaces.distinctObjects hspaces.made
      rw [Engine.store_openNamespace, Engine.store_openNamespace]
      exact hspaces.store
    · exact ⟨forall₂_concat hold.accessors ⟨rfl, rfl, .none, .none⟩, hold.editors, hold.flows,
        hold.shown⟩
  | get accessor =>
    obtain ⟨a, ha, hgiven⟩ := Option.bind_eq_some_iff.1 hu
    obtain ⟨rfl, rfl⟩ := Prod.mk.inj (Option.some.inj hgiven)
    obtain ⟨a', ha', hsame⟩ := forall₂_getElem? h.accessors ha
    have hspace : a.space = id := (hplaced.accessors a (List.mem_of_getElem? ha)).space
    obtain ⟨objects', hobjects, hread, haccessors, hshown⟩ := hsame.get hspaces hspace
    have hu' := use?_get l id v ha'
    have hold := h.mono hobjects (fun hpair => hpair) hkeeps (hkeeps' hu')
    refine ⟨_, _, objects', channels, hu', .inl, hread, ?_⟩
    refine ⟨forall₂_set hold.accessors accessor ?_, hold.editors, hold.flows,
      forall₂_concat hold.shown hshown⟩
    exact haccessors.mono (fun hpair => hpair) (fun hpair => hpair) hkeeps (hkeeps' hu')
  | mutable accessor =>
    obtain ⟨a, ha, hgiven⟩ := Option.bind_eq_some_iff.1 hu
    obtain ⟨rfl, rfl⟩ := Prod.mk.inj (Option.some.inj hgiven)
    obtain ⟨a', ha', hsame⟩ := forall₂_getElem? h.accessors ha
    have hspace : a.space = id := (hplaced.accessors a (List.mem_of_getElem? ha)).space
    obtain ⟨objects', hobjects, hread, haccessors, hshown⟩ := hsame.get hspaces hspace
    have hu' := use?_mutable l id v ha'
    have hold := h.mono hobjects (fun hpair => hpair) hkeeps (hkeeps' hu')
    have heditor : (⟨(a.get w).2.1.layout, (a.get w).2.1.space, (a.get w).1.value⟩ : Editor F) =
        ⟨(a'.get v).2.1.layout, (a'.get v).2.1.space, (a'.get v).1.value⟩ := by
      rw [haccessors.layout, haccessors.space, hshown.value]
    refine ⟨_, _, objects', channels, hu', .inl, hread, ?_⟩
    refine ⟨forall₂_set hold.accessors accessor ?_, ?_, hold.flows, hold.shown⟩
    · exact haccessors.mono (fun hpair => hpair) (fun hpair => hpair) hkeeps (hkeeps' hu')
    · exact congrArg₂ (· ++ [·]) h.editors heditor
  | set editor field value =>
    obtain ⟨e, he, hgiven⟩ := Option.bind_eq_some_iff.1 hu
    obtain ⟨rfl, rfl⟩ := Prod.mk.inj (Option.some.inj hgiven)
    obtain ⟨-, hspace⟩ := hplaced.editors e (List.mem_of_getElem? he)
    have he' : c.editors[editor]? = some e := h.editors ▸ he
    have hu' := use?_set l id v he' field value
    have hold := h.mono (fun hpair => hpair) (fun hpair => hpair) hkeeps (hkeeps' hu')
    refine ⟨_, _, objects, channels, hu', .inl, ?_, ?_⟩
    · refine hspaces.of_hub_eq ?_ rfl rfl (fun hpair => hpair) hspaces.distinctObjects hspaces.made
      have hset := congrArg Shelf.store (e.set_shelf w field value)
      have hset' := congrArg Shelf.store (e.set_shelf v field value)
      rw [hspace] at hset hset'
      exact hset.trans ((e.layout.encode_of_store_eq field value hspaces.store).trans hset'.symm)
    · have heditors := congrArg (·.set editor (e.set w field value).1) h.editors
      exact ⟨hold.accessors, heditors, hold.flows, hold.shown⟩
  | update accessor editor =>
    obtain ⟨a, ha, hrest⟩ := Option.bind_eq_some_iff.1 hu
    obtain ⟨e, he, hgiven⟩ := Option.bind_eq_some_iff.1 hrest
    obtain ⟨rfl, rfl⟩ := Prod.mk.inj (Option.some.inj hgiven)
    obtain ⟨a', ha', hsame⟩ := forall₂_getElem? h.accessors ha
    have he' : c.editors[editor]? = some e := h.editors ▸ he
    obtain ⟨objects', hobjects, htold, haccessors⟩ := hsame.update hspaces e
    have hu' := use?_update l id v ha' he'
    have hold := h.mono hobjects (fun hpair => hpair) hkeeps (hkeeps' hu')
    refine ⟨_, _, objects', channels, hu', .inl, htold, ?_⟩
    refine ⟨forall₂_set hold.accessors accessor ?_, hold.editors, hold.flows, hold.shown⟩
    exact haccessors.mono (fun hpair => hpair) (fun hpair => hpair) hkeeps (hkeeps' hu')
  | stateFlow accessor =>
    obtain ⟨a, ha, hgiven⟩ := Option.bind_eq_some_iff.1 hu
    obtain ⟨rfl, rfl⟩ := Prod.mk.inj (Option.some.inj hgiven)
    obtain ⟨a', ha', hsame⟩ := forall₂_getElem? h.accessors ha
    have hspace : a.space = id := (hplaced.accessors a (List.mem_of_getElem? ha)).space
    obtain ⟨objects', channels', hobjects, hchannels, hfresh, hmade, haccessors, hflow⟩ :=
      hsame.stateFlow hspaces hspace
    have hu' := use?_stateFlow l id v ha'
    have hold := h.mono hobjects hchannels hkeeps (hkeeps' hu')
    exact ⟨_, _, objects', channels', hu', hfresh, hmade,
      forall₂_set hold.accessors accessor haccessors, hold.editors,
      forall₂_concat hold.flows hflow, hold.shown⟩
  | flowValue flow =>
    obtain ⟨handle, hhandle, hrest⟩ := Option.bind_eq_some_iff.1 hu
    obtain ⟨object, hobject, hgiven⟩ := Option.bind_eq_some_iff.1 hrest
    obtain ⟨rfl, rfl⟩ := Prod.mk.inj (Option.some.inj hgiven)
    obtain ⟨handle', hhandle', x, y, hx, hy, hpair⟩ := forall₂_getElem? h.flows hhandle
    obtain ⟨d, d', hd, hd', hsame⟩ := hspaces.contents hpair
    have hvalue : w.hub.value? handle = some d.value := by
      rw [Hub.value?_of_channelOf? hx, Hub.content?, hd, Option.map_some]
    have hvalue' : v.hub.value? handle' = some d'.value := by
      rw [Hub.value?_of_channelOf? hy, Hub.content?, hd', Option.map_some]
    obtain rfl := Option.some.inj (hvalue.symm.trans hobject)
    exact ⟨_, _, objects, channels, use?_flowValue l id v hhandle' hvalue', .inl, hspaces,
      h.accessors, h.editors, h.flows, forall₂_concat h.shown hsame.value⟩

end Bench.Mirrors

/-- What a task of another declaration does is nothing to a declaration, as long as the channels that
it may change are none of this declaration. -/
theorem Space.Mirrors.of_moves {l : Layout F} {other : String} {sets : List (String × Datum F)}
    {w' : Space F} (h : w.Mirrors objects channels id v) (hother : id ≠ other)
    (hmoves : w.Moves l other (fun c => ∀ j, ¬channels c j) sets w') :
    w'.Mirrors objects channels id v where
  store := (hmoves.others id hother).trans h.store
  distinctObjects := h.distinctObjects
  made hpair := by
    obtain ⟨hi, hj⟩ := h.made hpair
    exact ⟨Nat.lt_of_lt_of_le hi hmoves.objects, hj⟩
  distinctChannels := h.distinctChannels
  contents hpair := by
    obtain ⟨c, d, hc, hd, hsame⟩ := h.contents hpair
    exact ⟨c, d, hmoves.channels (fun hnone => hnone _ hpair) hc, hd, hsame⟩

namespace Office

variable {layouts : String → Layout F} {o o' alone : Office F}

/-- An office is followed for a declaration by an office in which this declaration is alone. The
other benches keep no flow of a channel of this declaration. -/
structure Follows (layouts : String → Layout F) (id : String) (objects channels : Nat → Nat → Prop)
    (o alone : Office F) : Prop where
  spaces : o.space.Mirrors objects channels id alone.space
  benches : (o.bench id).Mirrors objects channels o.space alone.space (alone.bench id)
  placed : (o.bench id).Placed (layouts id) id (fun _ => True) o.space
  placedAlone : (alone.bench id).Placed (layouts id) id (fun _ => True) alone.space
  others : ∀ other, other ≠ id →
    (o.bench other).Placed (layouts other) other (fun c => ∀ j, ¬channels c j) o.space

theorem Follows.opened (w : Space F) :
    Follows layouts id (fun _ _ => False) (fun _ _ => False) { space := w } { space := w } where
  spaces := by
    refine ⟨rfl, ?_, ?_, ?_, ?_⟩
    · intro _ _ _ _ hpair
      cases hpair
    · intro _ _ hpair
      cases hpair
    · intro _ _ _ _ hpair
      cases hpair
    · intro _ _ hpair
      cases hpair
  benches := .empty w w
  placed := .empty _ _ _ _
  placedAlone := .empty _ _ _ _
  others _ _ := .empty _ _ _ _

theorem use?_eq_some {task : Task F} :
    o.use? layouts id task = some o' ↔
      ∃ b w, (o.bench id).use? (layouts id) id o.space task = some (b, w) ∧
        o' = ⟨w, fun other => if other = id then b else o.bench other⟩ := by
  constructor
  · intro hu
    obtain ⟨⟨b, w⟩, hb, hgiven⟩ := Option.bind_eq_some_iff.1 hu
    exact ⟨b, w, hb, (Option.some.inj hgiven).symm⟩
  · rintro ⟨b, w, hb, rfl⟩
    exact Option.bind_eq_some_iff.2 ⟨(b, w), hb, rfl⟩

/-- A task of the declaration is done alone as well. -/
theorem Follows.own (h : Follows layouts id objects channels o alone) {task : Task F}
    (hu : o.use? layouts id task = some o') :
    ∃ alone', alone.use? layouts id task = some alone' ∧
      ∃ objects' channels', Follows layouts id objects' channels' o' alone' := by
  obtain ⟨b, w, hb, rfl⟩ := use?_eq_some.1 hu
  obtain ⟨c, v, objects', channels', hc, hfresh, hspaces, hbenches⟩ :=
    h.benches.use? h.spaces h.placed h.placedAlone hb
  obtain ⟨hmoves, hplaced⟩ := h.placed.use? (fun _ _ => trivial) hb
  obtain ⟨-, hplacedAlone⟩ := h.placedAlone.use? (fun _ _ => trivial) hc
  refine ⟨_, use?_eq_some.2 ⟨c, v, hc, rfl⟩, objects', channels', hspaces, ?_, ?_, ?_, ?_⟩
  · dsimp only
    rw [if_pos rfl, if_pos rfl]
    exact hbenches
  · dsimp only
    rw [if_pos rfl]
    exact hplaced
  · dsimp only
    rw [if_pos rfl]
    exact hplacedAlone
  · intro other hother
    dsimp only
    rw [if_neg hother]
    -- Channels that are paired now were paired before, or are newer than all that others keep.
    refine (h.others other hother).mono hmoves.handles hmoves.length fun c hlt hnone j hpair => ?_
    rcases hfresh hpair with hold | hnew
    · exact hnone j hold
    · omega

/-- A task of another declaration changes nothing for the declaration. -/
theorem Follows.other (h : Follows layouts id objects channels o alone) {other : String}
    (hother : other ≠ id) {task : Task F} (hu : o.use? layouts other task = some o') :
    Follows layouts id objects channels o' alone := by
  obtain ⟨b, w, hb, rfl⟩ := use?_eq_some.1 hu
  -- Channels that are made now are new to the pairing, which has only channels there are.
  have hfresh : ∀ c, o.space.hub.channels.length ≤ c → ∀ j, ¬channels c j := by
    intro c hlength j hpair
    have hlt := (h.spaces.channels_lt hpair).1
    omega
  obtain ⟨hmoves, hplaced⟩ := (h.others other hother).use? hfresh hb
  refine ⟨h.spaces.of_moves hother.symm hmoves, ?_, ?_, h.placedAlone, ?_⟩
  · dsimp only
    rw [if_neg hother.symm]
    exact h.benches.mono (fun hpair => hpair) (fun hpair => hpair) hmoves.handles fun _ _ hc => hc
  · dsimp only
    rw [if_neg hother.symm]
    exact h.placed.mono hmoves.handles hmoves.length fun _ _ htrue => htrue
  · intro third hthird
    dsimp only
    split
    · rename_i hsame
      rw [hsame]
      exact hplaced
    · exact (h.others third hthird).mono hmoves.handles hmoves.length fun _ _ hnone => hnone

theorem Follows.run? (h : Follows layouts id objects channels o alone)
    {tasks : List (String × Task F)} (hrun : o.run? layouts tasks = some o') :
    ∃ alone', alone.run? layouts (tasks.filter (·.1 == id)) = some alone' ∧
      ∃ objects' channels', Follows layouts id objects' channels' o' alone' := by
  induction tasks generalizing o alone objects channels with
  | nil =>
    obtain rfl := Option.some.inj hrun
    exact ⟨alone, rfl, objects, channels, h⟩
  | cons named rest ih =>
    obtain ⟨name, task⟩ := named
    obtain ⟨middle, hu, hrest⟩ := Option.bind_eq_some_iff.1 hrun
    by_cases hname : name = id
    · subst hname
      obtain ⟨next, hnext, objects', channels', hfollows⟩ := h.own hu
      obtain ⟨last, hlast, hlast'⟩ := ih hfollows hrest
      rw [List.filter_cons_of_pos (by simp)]
      exact ⟨last, Option.bind_eq_some_iff.2 ⟨next, hnext, hlast⟩, hlast'⟩
    · rw [List.filter_cons_of_neg (by simpa using hname)]
      exact ih (h.other hname hu) hrest

end Office

end TypedPreferences
