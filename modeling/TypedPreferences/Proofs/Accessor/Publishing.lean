import TypedPreferences.Proofs.Accessor.Register
import TypedPreferences.Proofs.Samples.Settled

/-! What publishing keeps of the edits. An editor publishes its own copy, so what is shown after the
last of several editors was published is what this one was opened on and what it set itself. The
store has the values of all of them. -/

namespace TypedPreferences

namespace Layout

variable {F : Type} {l : Layout F} {c : Context} {d : Declaration}

/-- A value that a field can be set to, and that does not stand for a missing one. -/
structure Storable (l : Layout F) (f : LiveField F) (kind : FieldKind) (value : Datum F) : Prop where
  isValue : l.meaning.IsValue f.plan.field kind value
  sound : kind = .ordinal → (l.meaning.ordinals f.plan.field.typeName).Sound
  keeps : ∀ t, kind = .structured → value.payload = .tree t →
    (l.meaning.structured f.plan.field.typeName).Keeps t
  present : l.meaning.writesAbsent f.plan.field kind value = false

/-- Whoever reads a store finds for a field the value that was written for it last. -/
theorem IsPlanned.value?_decode_encodeAll (h : l.IsPlanned c d) {f : LiveField F}
    (hf : f ∈ l.fields) {kind : FieldKind} (hkind : c.kindOf d.name f.plan.field = .ok kind)
    {value : Datum F} (hvalue : l.Storable f kind value) {calls : List (String × Datum F)}
    (hlast : IsLastSet calls f.name value) (s : Shelf) :
    (l.decode (l.encodeAll calls s)).1.value? f.name =
      some (l.meaning.kept f.plan.field kind value) := by
  obtain ⟨earlier, later, rfl, hlater⟩ := hlast
  have hread := h.decode_encodeAll hf hkind hvalue.isValue hvalue.sound hvalue.keeps earlier hlater
    (s := s) rfl
  rw [hvalue.present] at hread
  rw [h.value?_decode hf]
  exact congrArg some hread

/-- Where nothing is lost in writing, to write values to a store that was read and to read it again
comes to the same as to set them. -/
theorem IsPlanned.decode_encodeAll_eq_setAll (h : l.IsPlanned c d)
    (hdefaults : l.DefaultsReturn c d) {calls : List (String × Datum F)}
    (hcalls : ∀ f ∈ l.fields, ∀ kind, c.kindOf d.name f.plan.field = .ok kind →
      ∀ value, (f.name, value) ∈ calls →
        l.Storable f kind value ∧ l.meaning.kept f.plan.field kind value = value) (s : Shelf) :
    (l.decode (l.encodeAll calls (l.decode s).2)).1 = (l.decode s).1.setAll calls := by
  have hnames : (l.decode (l.encodeAll calls (l.decode s).2)).1.map (·.1) =
      ((l.decode s).1.setAll calls).map (·.1) := by
    rw [h.names_decode, Snapshot.names_setAll, h.names_decode]
  -- Both list the same names in the same order, so they are compared name by name.
  refine Snapshot.ext_value? hnames ((h.names_decode _).symm ▸ h.nodup) ?_
  intro name hname
  rw [h.names_decode] at hname
  obtain ⟨f, hf, rfl⟩ := List.mem_map.1 hname
  by_cases hmem : f.name ∈ calls.map (·.1)
  · obtain ⟨value, hlast⟩ := IsLastSet.exists_of_mem hmem
    obtain ⟨kind, hkind, -⟩ := h.kindOf hf
    obtain ⟨hvalue, hkept⟩ := hcalls f hf kind hkind value hlast.mem
    have hthere : f.name ∈ (l.decode s).1.map (·.1) :=
      (h.names_decode s).symm ▸ List.mem_map_of_mem hf
    rw [h.value?_decode_encodeAll hf hkind hvalue hlast, hkept,
      Snapshot.value?_setAll_last _ hthere hlast]
  · -- The entry is as the first read left it, so it is read as it was then.
    have hentry := l.encodeAll_entry_of_not_mem hmem (l.decode s).2
    rw [Snapshot.value?_setAll_of_not_mem _ hmem, h.value?_decode hf, h.value?_decode hf,
      h.decode_again_field hdefaults hf hentry]

end Layout

namespace Register

variable {F : Type} {r : Register F}

/-- Only its own calls change what an editor holds. -/
theorem held_use {editor : Nat} {values : Snapshot F} (h : r.held[editor]? = some values)
    (u : Use F) : (r.use u).held[editor]? = some (values.setAll (u.setsBy editor)) := by
  cases u with
  | mutable =>
    have hlt : editor < r.held.length := (List.getElem?_eq_some_iff.1 h).1
    exact (List.getElem?_append_left hlt).trans h
  | set named field value =>
    change (r.held.modify named _)[editor]? = _
    rw [List.getElem?_modify, h, Use.setsBy]
    by_cases hnamed : named = editor
    · simp only [hnamed, if_true]
      rfl
    · simp only [hnamed, if_false]
      rfl
  | get | update | edit | stateFlow | mapFlow | elsewhere => exact h

theorem held_foldl {editor : Nat} {values : Snapshot F} (h : r.held[editor]? = some values)
    (uses : List (Use F)) :
    (uses.foldl use r).held[editor]? =
      some (values.setAll (uses.flatMap (·.setsBy editor))) := by
  induction uses generalizing r values with
  | nil => exact h
  | cons u rest ih =>
    rw [List.flatMap_cons, Snapshot.setAll_append]
    exact ih (held_use h u)

/-- As long as nothing is published, the same is shown. -/
theorem shown_foldl {uses : List (Use F)} (hquiet : ∀ u ∈ uses, u.publishes = false) :
    (uses.foldl use r).shown = r.shown := by
  induction uses generalizing r with
  | nil => rfl
  | cons u rest ih =>
    have hfirst : (r.use u).shown = r.shown := by
      have hu : u.publishes = false := hquiet u List.mem_cons_self
      cases u with
      | update | edit => cases hu
      | get | mutable | set | stateFlow | mapFlow | elsewhere => rfl
    exact (ih fun v hv => hquiet v (List.mem_cons_of_mem u hv)).trans hfirst

/-- Where one editor is the only one to set values, it holds what was shown at first and all values
that were set. -/
structure WrittenBy (first : Snapshot F) (writer : Nat) (calls : List (String × Datum F))
    (r : Register F) : Prop where
  unopened : r.held.length ≤ writer →
    calls = [] ∧ r.shown = first ∧ ∀ values ∈ r.held, values = first
  held : ∀ values, r.held[writer]? = some values → values = first.setAll calls

theorem WrittenBy.use {first : Snapshot F} {writer : Nat} {calls : List (String × Datum F)}
    (h : r.WrittenBy first writer calls) {u : Use F} (hby : u.setsBy writer = u.sets)
    (hnamed : u.editor?.all (· < r.held.length) = true) :
    (r.use u).WrittenBy first writer (calls ++ u.sets) := by
  cases u with
  | get | stateFlow | mapFlow | elsewhere => exact (List.append_nil calls).symm ▸ h
  | mutable =>
    refine ⟨?_, ?_⟩
    · -- No editor of the writer yet: the one that is opened holds what is shown, as the others do.
      intro hlength
      change (r.held ++ [r.shown]).length ≤ writer at hlength
      rw [List.length_append, List.length_singleton] at hlength
      obtain ⟨hcalls, hshown, hheld⟩ := h.unopened (by omega)
      refine ⟨by rw [hcalls]; rfl, hshown, ?_⟩
      intro values hmem
      rcases List.mem_append.1 hmem with hmem | hmem
      · exact hheld values hmem
      · exact (List.mem_singleton.1 hmem).trans hshown
    · intro values hvalues
      change (r.held ++ [r.shown])[writer]? = some values at hvalues
      change values = first.setAll (calls ++ [])
      rw [List.append_nil]
      by_cases hopened : writer < r.held.length
      · rw [List.getElem?_append_left hopened] at hvalues
        exact h.held values hvalues
      · -- The editor is opened now, and nothing was set before.
        obtain ⟨hcalls, hshown, -⟩ := h.unopened (Nat.not_lt.1 hopened)
        rw [List.getElem?_append_right (Nat.not_lt.1 hopened)] at hvalues
        have hmem : values ∈ [r.shown] := List.mem_of_getElem? hvalues
        rw [List.mem_singleton.1 hmem, hshown, hcalls]
        rfl
  | set named field value =>
    -- By `hby`, every set counts as one of the writer.
    have hwriter : named = writer := by
      by_contra hne
      have hnone : (Use.set named field value).setsBy writer = [] := if_neg hne
      rw [hnone] at hby
      cases hby
    subst hwriter
    have hlt : named < r.held.length := of_decide_eq_true hnamed
    have hold : r.held[named]? = some r.held[named] := List.getElem?_eq_getElem hlt
    refine ⟨?_, ?_⟩
    · intro hlength
      change (r.held.modify named _).length ≤ named at hlength
      rw [List.length_modify] at hlength
      exact absurd hlength (Nat.not_le.2 hlt)
    · intro values hvalues
      have hnow := held_use hold (.set named field value)
      rw [hby] at hnow
      rw [Snapshot.setAll_append, ← h.held _ hold]
      exact Option.some.inj (hvalues.symm.trans hnow)
  | update named =>
    refine ⟨?_, ?_⟩
    · intro hlength
      obtain ⟨hcalls, hshown, hheld⟩ := h.unopened hlength
      refine ⟨by rw [hcalls]; rfl, ?_, hheld⟩
      change r.held[named]?.getD r.shown = first
      cases hpublished : r.held[named]? with
      | none => exact hshown
      | some values => exact hheld values (List.mem_of_getElem? hpublished)
    · intro values hvalues
      exact (h.held values hvalues).trans (congrArg _ (List.append_nil calls).symm)
  | edit sets =>
    -- An edit in one go is of no editor that was opened, so by `hby` it sets nothing.
    have hnone : sets = [] := hby.symm
    subst hnone
    exact (List.append_nil calls).symm ▸ h

end Register

namespace Desk

variable {F : Type} {l : Layout F} {id : String} {w : Space F}
variable {r : Register F} {calls : List (String × Datum F)} {d next : Desk F}

theorem run?_append (d : Desk F) (uses more : List (Use F)) :
    d.run? (uses ++ more) = (d.run? uses).bind (·.run? more) := by
  induction uses generalizing d with
  | nil => rfl
  | cons u rest ih =>
    rw [List.cons_append, run?, run?]
    cases d.use? u with
    | none => rfl
    | some after => exact ih after

theorem writtenBy_run? (h : d.Shows l id w r calls) {first : Snapshot F} {writer : Nat}
    (hwritten : r.WrittenBy first writer calls) {uses : List (Use F)}
    (hown : ∀ u ∈ uses, u.isElsewhere = false) (hby : ∀ u ∈ uses, u.setsBy writer = u.sets)
    (hrun : d.run? uses = some next) :
    (uses.foldl Register.use r).WrittenBy first writer (calls ++ uses.flatMap Use.sets) := by
  induction uses generalizing d r calls with
  | nil =>
    rw [List.flatMap_nil, List.append_nil]
    exact hwritten
  | cons u rest ih =>
    obtain ⟨after, hu, hrest⟩ := Option.bind_eq_some_iff.1 hrun
    have hafter := h.use? (hown u List.mem_cons_self) hu
    have hnamed : u.editor?.all (· < r.held.length) = true := by
      have hlength : d.editors.length = r.held.length := by rw [h.editors, List.length_map]
      rw [← hlength, ← h.coherent.isSome_use?, hu]
      rfl
    have hstep := hwritten.use (hby u List.mem_cons_self) hnamed
    rw [List.flatMap_cons, ← List.append_assoc]
    exact ih hafter hstep (fun v hv => hown v (List.mem_cons_of_mem u hv))
      (fun v hv => hby v (List.mem_cons_of_mem u hv)) hrest

section LastUpdate

variable {before middle after : List (Use F)} {opening : Desk F}
variable (hbefore : (opened l id w).run? before = some opening)
variable (hrun : opening.run?
  (.mutable :: middle ++ .update opening.editors.length :: after) = some d)
variable (hown : ∀ u ∈ before ++ (.mutable :: middle ++ .update opening.editors.length :: after),
  u.isElsewhere = false)
variable (hafter : ∀ u ∈ after, u.publishes = false ∧ u.sets = [])
include hbefore hrun hown hafter

/-- What is shown after the last update is what its editor was opened on and set itself. -/
theorem object_of_last_update :
    d.object.value =
      opening.object.value.setAll (middle.flatMap (·.setsBy opening.editors.length)) := by
  let start : Register F := before.foldl Register.use ⟨(l.decode (w.shelf id)).1, []⟩
  have hopening : opening.Shows l id w start (before.flatMap Use.sets) :=
    (Shows.opened l id w).run? (fun u hu => hown u (List.mem_append_left _ hu)) hbefore
  have hend := hopening.run? (fun u hu => hown u (List.mem_append_right _ hu)) hrun
  have hlast : opening.editors.length = start.held.length := by
    rw [hopening.editors, List.length_map]
  -- The editor that is opened has the place after all others.
  have hheld : (start.use .mutable).held[opening.editors.length]? = some start.shown := by
    rw [hlast]
    exact List.getElem?_concat_length
  rw [hend.object_eq, hopening.object_eq, List.foldl_append, List.foldl_cons, List.foldl_cons,
    Register.shown_foldl fun u hu => (hafter u hu).1]
  change Option.getD (Register.held _)[opening.editors.length]? _ = _
  rw [Register.held_foldl hheld middle, Option.getD_some]

theorem shelf_of_last_update :
    d.space.shelf id =
      l.encodeAll ((before ++ middle).flatMap Use.sets) (l.decode (w.shelf id)).2 := by
  have hall : (opened l id w).run?
      (before ++ (.mutable :: middle ++ .update opening.editors.length :: after)) = some d := by
    rw [run?_append, hbefore]
    exact hrun
  have hquiet : after.flatMap Use.sets = [] := by
    rw [List.flatMap_eq_nil_iff]
    exact fun u hu => (hafter u hu).2
  -- Opening and publishing set nothing, nor does what is done afterwards.
  have hcalls : (before ++ (.mutable :: middle ++ .update opening.editors.length :: after)).flatMap
      Use.sets = (before ++ middle).flatMap Use.sets := by
    rw [List.flatMap_append, List.flatMap_append, List.flatMap_cons, List.flatMap_cons, hquiet,
      List.flatMap_append]
    simp only [Use.sets, List.nil_append, List.append_nil]
  have hsome : (before ++ (.mutable :: middle ++ .update opening.editors.length :: after)).isEmpty =
      false := by
    rw [List.isEmpty_eq_false_iff]
    exact List.append_ne_nil_of_right_ne_nil _ (List.cons_ne_nil _ _)
  rw [shelf_of_run hown hall, hcalls, hsome]
  rfl

end LastUpdate

/-- Where one editor alone set values, and was published after them, they are all shown. -/
theorem object_of_published_writer {earlier between : List (Use F)} {writer : Nat}
    (hrun : (opened l id w).run? (earlier ++ .update writer :: between) = some d)
    (hown : ∀ u ∈ earlier ++ .update writer :: between, u.isElsewhere = false)
    (hby : ∀ u ∈ earlier, u.setsBy writer = u.sets)
    (hbetween : ∀ u ∈ between, u.publishes = false ∧ u.sets = []) :
    d.object.value = (l.decode (w.shelf id)).1.setAll
      ((earlier ++ .update writer :: between).flatMap Use.sets) := by
  let first := (l.decode (w.shelf id)).1
  let start : Register F := ⟨first, []⟩
  have hend := (Shows.opened l id w).run? hown hrun
  rw [run?_append] at hrun
  obtain ⟨updating, hearlier, hrest⟩ := Option.bind_eq_some_iff.1 hrun
  obtain ⟨_, hupdate, -⟩ := Option.bind_eq_some_iff.1 hrest
  have hquiet : between.flatMap Use.sets = [] := by
    rw [List.flatMap_eq_nil_iff]
    exact fun u hu => (hbetween u hu).2
  have hcalls : (earlier ++ .update writer :: between).flatMap Use.sets =
      earlier.flatMap Use.sets := by
    rw [List.flatMap_append, List.flatMap_cons, hquiet]
    exact List.append_nil _
  have hown' : ∀ u ∈ earlier, u.isElsewhere = false :=
    fun u hu => hown u (List.mem_append_left _ hu)
  have hshows := (Shows.opened l id w).run? hown' hearlier
  have hstart : start.WrittenBy first writer [] :=
    ⟨fun _ => ⟨rfl, rfl, fun _ h => by cases h⟩, fun _ h => by cases h⟩
  have hwritten := writtenBy_run? (Shows.opened l id w) hstart hown' hby hearlier
  -- The editor that is published is there, and holds all that was set.
  obtain ⟨e, he, -⟩ := use?_update_iff.1 hupdate
  obtain ⟨-, values, hheld, -⟩ := hshows.exists_of_editor he
  rw [hend.object_eq, hcalls, List.foldl_append, List.foldl_cons,
    Register.shown_foldl fun u hu => (hbetween u hu).1]
  change (earlier.foldl Register.use start).held[writer]?.getD _ = _
  rw [hheld, Option.getD_some]
  exact hwritten.held values hheld

/-- Of several editors the one that is published last decides what is shown: what it was opened on,
and what it set. The store has all that was set, so whoever reads it anew finds for each field the
value of its last call. The two agree where the editor was opened after the only other one that set
values was published: then nothing is lost. -/
theorem last_update_shows {c : Context} {declaration : Declaration}
    (h : l.IsPlanned c declaration) {before middle after : List (Use F)} {opening : Desk F}
    (hbefore : (opened l id w).run? before = some opening)
    (hrun : opening.run?
      (.mutable :: middle ++ .update opening.editors.length :: after) = some d)
    (hown : ∀ u ∈ before ++ (.mutable :: middle ++ .update opening.editors.length :: after),
      u.isElsewhere = false)
    (hafter : ∀ u ∈ after, u.publishes = false ∧ u.sets = [])
    (hstorable : ∀ f ∈ l.fields, ∀ kind, c.kindOf declaration.name f.plan.field = .ok kind →
      ∀ value, (f.name, value) ∈ (before ++ middle).flatMap Use.sets → l.Storable f kind value) :
    let last := opening.editors.length
    let calls := (before ++ middle).flatMap Use.sets
    let shown := d.object.value
    let fresh := (({ layout := l, space := id } : Accessor F).get d.space).1.value
    shown = opening.object.value.setAll (middle.flatMap (·.setsBy last)) ∧
      (∀ f ∈ l.fields, ∃ kind, c.kindOf declaration.name f.plan.field = .ok kind ∧
        ∀ value, IsLastSet calls f.name value →
          fresh.value? f.name = some (l.meaning.kept f.plan.field kind value)) ∧
      ∀ other earlier between, before = earlier ++ .update other :: between →
        (∀ u ∈ between, u.publishes = false ∧ u.sets = []) →
        (∀ u ∈ earlier, u.setsBy other = u.sets) → (∀ u ∈ middle, u.setsBy last = u.sets) →
        (∀ f ∈ l.fields, ∀ value, IsLastSet calls f.name value → shown.value? f.name = some value) ∧
          (l.DefaultsReturn c declaration →
            (∀ f ∈ l.fields, ∀ kind, c.kindOf declaration.name f.plan.field = .ok kind →
              ∀ value, (f.name, value) ∈ calls → l.meaning.kept f.plan.field kind value = value) →
            fresh = shown) := by
  intro last calls shown fresh
  have hshown : shown = opening.object.value.setAll (middle.flatMap (·.setsBy last)) :=
    object_of_last_update hbefore hrun hown hafter
  have hfresh : fresh = (l.decode (l.encodeAll calls (l.decode (w.shelf id)).2)).1 :=
    congrArg (fun s => (l.decode s).1) (shelf_of_last_update hbefore hrun hown hafter)
  refine ⟨hshown, ?_, ?_⟩
  · intro f hf
    obtain ⟨kind, hkind, -⟩ := h.kindOf hf
    refine ⟨kind, hkind, ?_⟩
    intro value hcall
    have hvalue : l.Storable f kind value := hstorable f hf kind hkind value hcall.mem
    rw [hfresh]
    exact h.value?_decode_encodeAll hf hkind hvalue hcall _
  · intro other earlier between hsplit hbetween hby hlast
    -- Both editors in turn have set all values, over what was read at first.
    have hall : shown = (l.decode (w.shelf id)).1.setAll calls := by
      have hopening : opening.object.value =
          (l.decode (w.shelf id)).1.setAll (before.flatMap Use.sets) := by
        subst hsplit
        exact object_of_published_writer hbefore (fun u hu => hown u (List.mem_append_left _ hu))
          hby hbetween
      have hmiddle : middle.flatMap (·.setsBy last) = middle.flatMap Use.sets :=
        List.flatMap_congr hlast
      rw [hshown, hopening, hmiddle, ← Snapshot.setAll_append, ← List.flatMap_append]
    refine ⟨?_, ?_⟩
    · intro f hf value hcall
      have hthere : f.name ∈ (l.decode (w.shelf id)).1.map (·.1) :=
        (h.names_decode _).symm ▸ List.mem_map_of_mem hf
      rw [hall]
      exact Snapshot.value?_setAll_last _ hthere hcall
    · intro hdefaults hkept
      rw [hfresh, hall]
      apply h.decode_encodeAll_eq_setAll hdefaults
      intro f hf kind hkind value hmem
      exact ⟨hstorable f hf kind hkind value hmem, hkept f hf kind hkind value hmem⟩

section Samples

open Samples

/-- The two values that are set here can be stored for their fields, and come back as they are. -/
theorem storable_primitiveData {f : LiveField Foreign} (hf : f ∈ primitiveData.layout.fields)
    {kind : FieldKind}
    (hkind : primitiveData.context.kindOf primitiveData.name f.plan.field = .ok kind)
    {set : Datum Foreign}
    (hmem : (f.name, set) ∈
      [("count", value .integer (7 : Int32)), ("total", value .long (9 : Int64))]) :
    primitiveData.layout.Storable f kind set ∧
      primitiveData.layout.meaning.kept f.plan.field kind set = set := by
  have hfind := Layout.find?_name isPlanned_primitiveData.nodup hf
  simp only [List.mem_cons, Prod.mk.injEq, List.not_mem_nil, or_false] at hmem
  rcases hmem with ⟨hname, rfl⟩ | ⟨hname, rfl⟩
  · rw [hname] at hfind
    obtain rfl : plannedField primitiveData.fields[1] (.primitive .integer) = f :=
      Option.some.inj hfind
    obtain rfl : .primitive .integer = kind := Except.ok.inj hkind
    exact ⟨⟨⟨_, rfl⟩, (fun h => by cases h), (fun _ h => by cases h), rfl⟩, rfl⟩
  · rw [hname] at hfind
    obtain rfl : plannedField primitiveData.fields[2] (.primitive .long) = f :=
      Option.some.inj hfind
    obtain rfl : .primitive .long = kind := Except.ok.inj hkind
    exact ⟨⟨⟨_, rfl⟩, (fun h => by cases h), (fun _ h => by cases h), rfl⟩, rfl⟩

/-- Two editors in turn, each on a field of its own: nothing is lost. -/
theorem last_update_shows_primitiveData :
    let before : List (Use Foreign) :=
      [.mutable, .set 0 "count" (value .integer (7 : Int32)), .update 0]
    let middle : List (Use Foreign) := [.set 1 "total" (value .long (9 : Int64))]
    ∃ opening d, (opened primitiveData.layout "primitive" {}).run? before = some opening ∧
      opening.run? (.mutable :: middle ++ .update opening.editors.length :: [.get]) = some d ∧
      let fresh : Accessor Foreign := { layout := primitiveData.layout, space := "primitive" }
      d.object.value.value? "count" = some (value .integer (7 : Int32)) ∧
        d.object.value.value? "total" = some (value .long (9 : Int64)) ∧
        (fresh.get d.space).1.value = d.object.value := by
  intro before middle
  obtain ⟨opening, hbefore⟩ :
      ∃ opening, (opened primitiveData.layout "primitive" {}).run? before = some opening :=
    ⟨_, rfl⟩
  have hlast : opening.editors.length = 1 := by
    obtain rfl := Option.some.inj hbefore
    rfl
  obtain ⟨d, hrun⟩ : ∃ d, opening.run?
      (.mutable :: middle ++ .update opening.editors.length :: [.get]) = some d := by
    obtain rfl := Option.some.inj hbefore
    exact ⟨_, rfl⟩
  have hown : ∀ u ∈ before ++ (.mutable :: middle ++ .update opening.editors.length :: [.get]),
      u.isElsewhere = false := by
    intro u hu
    simp only [before, middle, List.cons_append, List.nil_append, List.mem_cons, List.not_mem_nil,
      or_false] at hu
    rcases hu with rfl | rfl | rfl | rfl | rfl | rfl | rfl <;> rfl
  have hafter : ∀ u ∈ ([.get] : List (Use Foreign)), u.publishes = false ∧ u.sets = [] := by
    intro u hu
    obtain rfl := List.mem_singleton.1 hu
    exact ⟨rfl, rfl⟩
  obtain ⟨-, -, hinTurn⟩ := last_update_shows isPlanned_primitiveData hbefore hrun hown hafter
    fun f hf kind hkind set hmem => (storable_primitiveData hf hkind hmem).1
  -- The first editor alone sets a value before, and the second one alone after it was opened.
  have hfirst : ∀ u ∈ ([.mutable, .set 0 "count" (value .integer (7 : Int32))] : List (Use Foreign)),
      u.setsBy 0 = u.sets := by
    intro u hu
    simp only [List.mem_cons, List.not_mem_nil, or_false] at hu
    rcases hu with rfl | rfl <;> rfl
  have hsecond : ∀ u ∈ middle, u.setsBy opening.editors.length = u.sets := by
    intro u hu
    obtain rfl := List.mem_singleton.1 hu
    rw [hlast]
    rfl
  obtain ⟨hvalues, hagree⟩ := hinTurn 0 _ [] rfl (fun u hu => by cases hu) hfirst hsecond
  have hcount : plannedField primitiveData.fields[1] (.primitive .integer) ∈
      primitiveData.layout.fields := List.mem_of_getElem? (i := 1) rfl
  have htotal : plannedField primitiveData.fields[2] (.primitive .long) ∈
      primitiveData.layout.fields := List.mem_of_getElem? (i := 2) rfl
  refine ⟨opening, d, hbefore, hrun, ?_, ?_, ?_⟩
  · exact hvalues _ hcount _ ⟨[], [("total", value .long (9 : Int64))], rfl, by decide⟩
  · exact hvalues _ htotal _ ⟨[("count", value .integer (7 : Int32))], [], rfl, by decide⟩
  · exact hagree defaultsReturn_primitiveData
      fun f hf kind hkind set hmem => (storable_primitiveData hf hkind hmem).2

/-- Two editors at a time: what the first one published is shown no more once the second one is
published, though it is in the store. -/
theorem overlapping_update_primitiveData :
    let uses : List (Use Foreign) :=
      [.mutable, .mutable, .set 0 "count" (value .integer (7 : Int32)),
        .set 1 "total" (value .long (9 : Int64)), .update 0, .update 1]
    let fresh : Accessor Foreign := { layout := primitiveData.layout, space := "primitive" }
    ∃ d, (opened primitiveData.layout "primitive" {}).run? uses = some d ∧
      IsLastSet (uses.flatMap Use.sets) "count" (value .integer (7 : Int32)) ∧
      d.object.value.value? "count" = some (value .integer (42 : Int32)) ∧
      (fresh.get d.space).1.value.value? "count" = some (value .integer (7 : Int32)) ∧
      (fresh.get d.space).1.value ≠ d.object.value := by
  intro uses fresh
  obtain ⟨d, hrun⟩ : ∃ d, (opened primitiveData.layout "primitive" {}).run? uses = some d := ⟨_, rfl⟩
  have hown : ∀ u ∈ uses, u.isElsewhere = false := by
    intro u hu
    simp only [uses, List.mem_cons, List.not_mem_nil, or_false] at hu
    rcases hu with rfl | rfl | rfl | rfl | rfl | rfl <;> rfl
  have hlast : IsLastSet (uses.flatMap Use.sets) "count" (value .integer (7 : Int32)) :=
    ⟨[], [("total", value .long (9 : Int64))], rfl, by decide⟩
  have hshown : d.object.value.value? "count" = some (value .integer (42 : Int32)) := by
    obtain rfl := Option.some.inj hrun
    rfl
  have hf : plannedField primitiveData.fields[1] (.primitive .integer) ∈
      primitiveData.layout.fields := List.mem_of_getElem? (i := 1) rfl
  have hstorable := (storable_primitiveData hf rfl List.mem_cons_self).1
  -- The second editor wrote no entry of `count`, so the store keeps the one of the first.
  have hread : (fresh.get d.space).1.value.value? "count" = some (value .integer (7 : Int32)) := by
    have hshelf := shelf_of_run hown hrun
    rw [Accessor.get_value_fresh, hshelf]
    exact isPlanned_primitiveData.value?_decode_encodeAll hf rfl hstorable hlast _
  refine ⟨d, hrun, hlast, hshown, hread, ?_⟩
  intro hsame
  rw [hsame, hshown] at hread
  have hnumbers : some (42 : Int32) = some 7 := congrArg (·.bind (·.as? .integer)) hread
  exact absurd hnumbers (by decide)

end Samples

end Desk

end TypedPreferences
