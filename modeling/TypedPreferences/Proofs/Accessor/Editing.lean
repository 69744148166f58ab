import TypedPreferences.Proofs.Accessor.FirstRead
import TypedPreferences.Proofs.Fields.RoundTrip
import TypedPreferences.Proofs.Fields.Snapshots

/-! What an editor leaves in the store. Every value that is set is written through at once, so an
accessor that is opened afterwards shows the values that were set. -/

namespace TypedPreferences

namespace Layout

variable {F : Type} (l : Layout F)

/-- Writing a field by its name leaves all entries under other keys. -/
theorem encode_frame (name : String) (value : Datum F) (s : Shelf) {key : String}
    (hkey : key ≠ name) : (l.encode name value s).store.get? key = s.store.get? key := by
  rw [encode]
  cases hfield : l.field? name with
  | none => rfl
  | some f =>
    -- The field that is written is the one of the name, and writing it stays at its key.
    have hname : f.name = name := by
      simpa using List.find?_some hfield
    subst hname
    exact (l.meaning.confined_encode f.plan.field f.plan.encode value).frame s key hkey

theorem encode_entry_of_forall_ne (name : String) (value : Datum F) (s : Shelf) {key : String}
    (hkey : ∀ f ∈ l.fields, f.name ≠ key) :
    (l.encode name value s).store.get? key = s.store.get? key := by
  by_cases heq : key = name
  · have hfield : l.field? name = none := by
      rw [field?, List.find?_eq_none]
      intro f hf hname
      exact hkey f hf ((eq_of_beq hname).trans heq.symm)
    rw [encode, hfield]
  · exact l.encode_frame name value s heq

/-- Writes values one after another. -/
def encodeAll (sets : List (String × Datum F)) (s : Shelf) : Shelf :=
  sets.foldl (fun s set => l.encode set.1 set.2 s) s

theorem encodeAll_append (sets more : List (String × Datum F)) (s : Shelf) :
    l.encodeAll (sets ++ more) s = l.encodeAll more (l.encodeAll sets s) :=
  List.foldl_append

theorem encodeAll_entry_of_not_mem {sets : List (String × Datum F)} {key : String}
    (hkey : key ∉ sets.map (·.1)) (s : Shelf) :
    (l.encodeAll sets s).store.get? key = s.store.get? key := by
  induction sets generalizing s with
  | nil => rfl
  | cons set rest ih =>
    rw [List.map_cons, List.mem_cons, not_or] at hkey
    exact (ih hkey.2 _).trans (l.encode_frame set.1 set.2 s hkey.1)

theorem encodeAll_entry_of_forall_ne (sets : List (String × Datum F)) (s : Shelf) {key : String}
    (hkey : ∀ f ∈ l.fields, f.name ≠ key) :
    (l.encodeAll sets s).store.get? key = s.store.get? key := by
  induction sets generalizing s with
  | nil => rfl
  | cons set rest ih => exact (ih _).trans (l.encode_entry_of_forall_ne set.1 set.2 s hkey)

/-- The entry under a name is the one that writing it last leaves: what is written later is written
elsewhere. -/
theorem encodeAll_entry_last (earlier : List (String × Datum F)) (name : String) (value : Datum F)
    {later : List (String × Datum F)} (hlater : name ∉ later.map (·.1)) (s : Shelf) :
    (l.encodeAll (earlier ++ (name, value) :: later) s).store.get? name =
      (l.encode name value (l.encodeAll earlier s)).store.get? name := by
  rw [encodeAll_append]
  exact l.encodeAll_entry_of_not_mem hlater _

theorem IsPlanned.encode_name {l : Layout F} {c : Context} {d : Declaration}
    (h : l.IsPlanned c d) {f : LiveField F} (hf : f ∈ l.fields) (value : Datum F) (s : Shelf) :
    l.encode f.name value s = l.meaning.encode f.plan.field f.plan.encode value s := by
  rw [encode, field?, find?_name h.nodup hf]

end Layout

namespace Editor

variable {F : Type} (e : Editor F)

@[simp]
theorem set_layout (w : Space F) (field : String) (value : Datum F) :
    (e.set w field value).1.layout = e.layout := rfl

@[simp]
theorem set_space (w : Space F) (field : String) (value : Datum F) :
    (e.set w field value).1.space = e.space := rfl

theorem set_shelf (w : Space F) (field : String) (value : Datum F) :
    (e.set w field value).2.shelf e.space = e.layout.encode field value (w.shelf e.space) := by
  have hstore : (e.set w field value).2.engine.store e.space =
      (e.layout.encode field value (w.shelf e.space)).store :=
    (Engine.store_setStore _ _ _ _).trans (if_pos rfl)
  rw [Space.shelf, hstore]
  rfl

theorem setAll_cons (w : Space F) (field : String) (value : Datum F)
    (rest : List (String × Datum F)) :
    e.setAll w ((field, value) :: rest) =
      (e.set w field value).1.setAll (e.set w field value).2 rest := rfl

/-- Setting values changes those of the editor, and no space takes part in it. -/
theorem setAll_editor (sets : List (String × Datum F)) (w : Space F) :
    (e.setAll w sets).1 = { e with values := e.values.setAll sets } := by
  induction sets generalizing e w with
  | nil => rfl
  | cons s rest ih =>
    obtain ⟨field, value⟩ := s
    rw [setAll_cons, ih]
    rfl

/-- Setting values changes the stores and adds warnings, and that is all. -/
theorem setAll_space (sets : List (String × Datum F)) (w : Space F) :
    ∃ engine warnings, (e.setAll w sets).2 = { w with engine, warnings } := by
  induction sets generalizing e w with
  | nil => exact ⟨w.engine, w.warnings, rfl⟩
  | cons s rest ih =>
    obtain ⟨field, value⟩ := s
    obtain ⟨engine, warnings, hrest⟩ := ih (e.set w field value).1 (e.set w field value).2
    exact ⟨engine, warnings, hrest⟩

theorem setAll_shelf (sets : List (String × Datum F)) (w : Space F) :
    (e.setAll w sets).2.shelf e.space = e.layout.encodeAll sets (w.shelf e.space) := by
  induction sets generalizing e w with
  | nil => rfl
  | cons s rest ih =>
    obtain ⟨field, value⟩ := s
    -- The editor keeps its layout and its space, so the hypothesis is used for it as it is then.
    rw [setAll_cons]
    refine (ih (e.set w field value).1 (e.set w field value).2).trans ?_
    rw [set_layout, set_space, set_shelf]
    rfl

theorem setAll_store_of_ne (sets : List (String × Datum F)) (w : Space F) {id : String}
    (hid : id ≠ e.space) : (e.setAll w sets).2.engine.store id = w.engine.store id := by
  induction sets generalizing e w with
  | nil => rfl
  | cons s rest ih =>
    obtain ⟨field, value⟩ := s
    rw [setAll_cons]
    refine (ih (e.set w field value).1 (e.set w field value).2 hid).trans ?_
    exact (Engine.store_setStore _ _ _ _).trans (if_neg hid)

end Editor

namespace Layout

variable {F : Type} {l : Layout F} {c : Context} {d : Declaration}

section LastValue

variable (h : l.IsPlanned c d) {f : LiveField F} (hf : f ∈ l.fields) {kind : FieldKind}
variable (hkind : c.kindOf d.name f.plan.field = .ok kind) {value : Datum F}
variable (hvalue : l.meaning.IsValue f.plan.field kind value)
variable (hordinals : kind = .ordinal → (l.meaning.ordinals f.plan.field.typeName).Sound)
variable (hkeeps : ∀ t, kind = .structured → value.payload = .tree t →
  (l.meaning.structured f.plan.field.typeName).Keeps t)
include h hf hkind hvalue hordinals hkeeps

/-- A field is read as the value that was written last for it; or as its default, when what was
written stands for a missing value. -/
theorem IsPlanned.decode_encodeAll (earlier : List (String × Datum F))
    {later : List (String × Datum F)} (hlater : f.name ∉ later.map (·.1)) {s after : Shelf}
    (hafter : after.store = (l.encodeAll (earlier ++ (f.name, value) :: later) s).store) :
    (l.meaning.decode f.plan f.default after).1 =
      if l.meaning.writesAbsent f.plan.field kind value then f.default
      else l.meaning.kept f.plan.field kind value := by
  have hsteps : f.plan.encode = encodeSteps f.plan.field kind :=
    congrArg FieldPlan.encode (h.plan_eq hf hkind)
  have hentry := l.encodeAll_entry_last earlier f.name value hlater s
  -- What the entry was before the value was written does not matter.
  have hreading := l.meaning.reading_encode hkind hvalue hordinals hkeeps (l.encodeAll earlier s)
  rw [h.encode_name hf, hsteps] at hentry
  rw [h.decode_value hf hkind, hafter, hentry]
  refine (congrArg (Option.getD · f.default) hreading).trans ?_
  cases l.meaning.writesAbsent f.plan.field kind value <;> rfl

/-- A field that was set, and no other value after it, is read as the value that was set. -/
theorem IsPlanned.decode_setAll (space : String) (values : Snapshot F) (w : Space F)
    {sets : List (String × Datum F)} (hnodup : (sets.map (·.1)).Nodup)
    (hmem : (f.name, value) ∈ sets) :
    let e : Editor F := { layout := l, space, values }
    (l.meaning.decode f.plan f.default ((e.setAll w sets).2.shelf space)).1 =
      if l.meaning.writesAbsent f.plan.field kind value then f.default
      else l.meaning.kept f.plan.field kind value := by
  intro e
  obtain ⟨earlier, later, rfl⟩ := List.append_of_mem hmem
  have hlater : f.name ∉ later.map (·.1) := by
    rw [List.map_append, List.map_cons, List.nodup_append] at hnodup
    exact (List.nodup_cons.1 hnodup.2.1).1
  have hafter := congrArg Shelf.store (e.setAll_shelf (earlier ++ (f.name, value) :: later) w)
  exact h.decode_encodeAll hf hkind hvalue hordinals hkeeps earlier hlater hafter

end LastValue

end Layout

end TypedPreferences
