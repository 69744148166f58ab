import TypedPreferences.Proofs.Fields.Confined
import TypedPreferences.Proofs.Fields.Reading
import TypedPreferences.Proofs.Plan.Accepted

/-! The fields of a layout do not get in each other's way. They have keys of their own, so each is
read as if it were read alone from the store as it was before, whatever the others write. -/

namespace TypedPreferences

namespace Layout

variable {F : Type} (l : Layout F)

/-- The fields of a layout are those of a declaration, as they are planned in a context; any values
may stand for the defaults. -/
def IsPlanned (c : Context) (d : Declaration) : Prop :=
  ∃ plans, (c.planDeclaration d).perform.1 = .ok plans ∧ l.fields.map (·.plan) = plans.map (·.2)

theorem fields_of_planOf {c : Context} {declaration : String} {fields : List Field}
    {plans : List (FieldKind × FieldPlan)}
    (h : fields.map (c.planOf declaration) = plans.map .ok) :
    plans.map (·.2.field) = fields := by
  induction fields generalizing plans with
  | nil =>
    rw [List.map_nil, eq_comm, List.map_eq_nil_iff] at h
    rw [h, List.map_nil]
  | cons field rest ih =>
    cases plans with
    | nil => cases h
    | cons plan others =>
      rw [List.map_cons, List.map_cons, List.cons.injEq] at h
      obtain ⟨hplan, hothers⟩ := h
      obtain ⟨-, hfield⟩ := Context.planOf_eq_ok.1 hplan
      rw [List.map_cons, ih hothers, hfield]
      rfl

variable {l} {c : Context} {d : Declaration}

theorem IsPlanned.planFields (h : l.IsPlanned c d) :
    ∃ plans : List (FieldKind × FieldPlan), d.fields.map (c.planOf d.name) = plans.map .ok ∧
      (d.fields.map (·.name)).Nodup ∧ l.fields.map (·.plan) = plans.map (·.2) := by
  obtain ⟨plans, hok, hplans⟩ := h
  obtain ⟨hmap, hnodup⟩ := Context.planDeclaration_ok hok
  exact ⟨plans, hmap, hnodup, hplans⟩

theorem IsPlanned.kindOf (h : l.IsPlanned c d) {f : LiveField F} (hf : f ∈ l.fields) :
    ∃ kind, c.kindOf d.name f.plan.field = .ok kind ∧ f.plan = .ofKind f.plan.field kind := by
  obtain ⟨plans, hmap, -, hplans⟩ := h.planFields
  have hplan : f.plan ∈ plans.map (·.2) := hplans ▸ List.mem_map_of_mem hf
  obtain ⟨⟨kind, plan⟩, hmem, hsnd⟩ := List.mem_map.1 hplan
  have hok : .ok (kind, plan) ∈ d.fields.map (c.planOf d.name) :=
    hmap ▸ List.mem_map_of_mem hmem
  obtain ⟨field, -, hfield⟩ := List.mem_map.1 hok
  obtain ⟨hkind, hofKind⟩ := Context.planOf_eq_ok.1 hfield
  have hplan : f.plan = .ofKind field kind := hsnd.symm.trans hofKind
  refine ⟨kind, ?_, ?_⟩
  · rw [hplan]
    exact hkind
  · rw [hplan]
    rfl

theorem IsPlanned.nodup (h : l.IsPlanned c d) : (l.fields.map (·.name)).Nodup := by
  obtain ⟨plans, hmap, hnodup, hplans⟩ := h.planFields
  -- The names are those of the declaration, and planning refuses a name that comes twice.
  have hnames : l.fields.map (·.name) = d.fields.map (·.name) := by
    calc l.fields.map (·.name)
        = (l.fields.map (·.plan)).map (·.field.name) := by rw [List.map_map]; rfl
      _ = (plans.map (·.2.field)).map (·.name) := by rw [hplans, List.map_map, List.map_map]; rfl
      _ = d.fields.map (·.name) := by rw [fields_of_planOf hmap]
  rw [hnames]
  exact hnodup

end Layout

namespace Layout

variable {F : Type} (l : Layout F)

/-- Reading fields one after the other reads each from the store as it was before. -/
theorem decodeFields_values {fields : List (LiveField F)} (hnodup : (fields.map (·.name)).Nodup)
    (s : Shelf) :
    (l.decodeFields fields s).1 =
      fields.map fun f => (f.name, (l.meaning.decode f.plan f.default s).1) := by
  induction fields generalizing s with
  | nil => rfl
  | cons f rest ih =>
    obtain ⟨hnot, hrest⟩ := List.nodup_cons.1 hnodup
    rw [decodeFields, List.map_cons]
    dsimp only
    rw [ih hrest]
    congr 1
    -- The others are read from what reading `f` leaves: the same values, by locality.
    apply List.map_congr_left
    intro g hg
    -- The key of `g` is not the one that reading `f` may write.
    have hne : g.name ≠ f.name := fun heq => hnot (List.mem_map.2 ⟨g, hg, heq⟩)
    have hframe := (l.meaning.confined_decode f.plan f.default).frame s g.name hne
    rw [(l.meaning.confined_decode g.plan g.default).result _ s hframe]

/-- Reading fields leaves an entry under a key of theirs as reading that field alone does, and every
other entry as it was. -/
theorem decodeFields_entry {fields : List (LiveField F)} (hnodup : (fields.map (·.name)).Nodup)
    (s : Shelf) (key : String) :
    (l.decodeFields fields s).2.store.get? key =
      match fields.find? (·.name == key) with
      | some f => (l.meaning.decode f.plan f.default s).2.store.get? key
      | none => s.store.get? key := by
  induction fields generalizing s with
  | nil => rfl
  | cons f rest ih =>
    obtain ⟨hnot, hrest⟩ := List.nodup_cons.1 hnodup
    have hconfined := l.meaning.confined_decode f.plan f.default
    rw [decodeFields, List.find?_cons]
    dsimp only
    rw [ih hrest]
    by_cases hkey : f.name = key
    -- Either the key is that of `f`, and nothing later touches it, or it is found among the rest.
    · subst hkey
      have hnone : rest.find? (·.name == f.name) = none := by
        rw [List.find?_eq_none]
        intro g hg heq
        exact hnot (List.mem_map.2 ⟨g, hg, beq_iff_eq.1 heq⟩)
      rw [hnone, beq_self_eq_true]
    · rw [beq_eq_false_iff_ne.2 hkey]
      dsimp only
      have hframe := hconfined.frame s key (Ne.symm hkey)
      cases hfind : rest.find? (·.name == key) with
      | none => exact hframe
      | some g =>
        have hname : g.name = key := by simpa using List.find?_some hfind
        subst hname
        exact (l.meaning.confined_decode g.plan g.default).entry _ s hframe

end Layout

namespace Meaning

variable {F : Type} (m : Meaning F)

theorem decode_ofKind_value (field : Field) (kind : FieldKind) (default : Datum F) (s : Shelf) :
    (m.decode (.ofKind field kind) default s).1 =
      (m.reading field kind (s.store.get? field.name)).getD default := by
  rw [decode_ofKind]
  cases m.reading field kind (s.store.get? field.name) <;> rfl

/-- The entry that reading a planned field leaves: what writing the default leaves, where the field
asks for it, its entry counts as missing and nothing withholds the default. -/
theorem decode_ofKind_entry (field : Field) (kind : FieldKind) (default : Datum F) (s : Shelf) :
    (m.decode (.ofKind field kind) default s).2.store.get? field.name =
      if field.persistDefault && (m.reading field kind (s.store.get? field.name)).isNone &&
          !kind.withholds field.type.nullable default then
        (m.encode field (encodeSteps field kind) default s).store.get? field.name
      else s.store.get? field.name := by
  rw [decode_ofKind]
  cases m.reading field kind (s.store.get? field.name) with
  | some value =>
    simp only [settle, Option.isNone_some, Bool.and_false, Bool.false_and, noted_store,
      Bool.false_eq_true, if_false]
  | none =>
    -- The warning that was noted has no part in what is written.
    have hencode : (m.encode field (encodeSteps field kind) default
        (m.noted field kind s)).store.get? field.name =
        (m.encode field (encodeSteps field kind) default s).store.get? field.name :=
      (m.confined_encode field (encodeSteps field kind) default).entry _ s rfl
    simp only [settle, Option.isNone_none, Bool.and_true]
    split
    · exact hencode
    · rfl

end Meaning

namespace Layout

variable {F : Type}

theorem find?_name {fields : List (LiveField F)} (hnodup : (fields.map (·.name)).Nodup)
    {f : LiveField F} (hf : f ∈ fields) : fields.find? (·.name == f.name) = some f := by
  induction fields with
  | nil => cases hf
  | cons g rest ih =>
    obtain ⟨hnot, hrest⟩ := List.nodup_cons.1 hnodup
    rw [List.find?_cons]
    rcases List.mem_cons.1 hf with rfl | hmem
    · rw [beq_self_eq_true]
    · have hne : (g.name == f.name) = false :=
        beq_eq_false_iff_ne.2 fun heq => hnot (List.mem_map.2 ⟨f, hmem, heq.symm⟩)
      rw [hne]
      exact ih hrest hmem

/-- A value that belongs to each field is looked up by finding the field of the name. -/
theorem lookup_map_name {β : Type} (fields : List (LiveField F)) (g : LiveField F → β)
    (key : String) :
    (fields.map fun f => (f.name, g f)).lookup key = (fields.find? (·.name == key)).map g := by
  induction fields with
  | nil => rfl
  | cons f rest ih =>
    rw [List.map_cons, List.lookup_cons, List.find?_cons, Bool.beq_comm (a := key)]
    cases f.name == key with
    | true => rfl
    | false => exact ih

variable {l : Layout F} {c : Context} {d : Declaration}

theorem IsPlanned.plan_eq (h : l.IsPlanned c d) {f : LiveField F} (hf : f ∈ l.fields)
    {kind : FieldKind} (hkind : c.kindOf d.name f.plan.field = .ok kind) :
    f.plan = .ofKind f.plan.field kind := by
  obtain ⟨found, hfound, hplan⟩ := h.kindOf hf
  have hsame : found = kind := Except.ok.inj (hfound.symm.trans hkind)
  exact hsame ▸ hplan

theorem IsPlanned.decode_value (h : l.IsPlanned c d) {f : LiveField F} (hf : f ∈ l.fields)
    {kind : FieldKind} (hkind : c.kindOf d.name f.plan.field = .ok kind) (s : Shelf) :
    (l.meaning.decode f.plan f.default s).1 =
      (l.meaning.reading f.plan.field kind (s.store.get? f.name)).getD f.default := by
  have hdecode := congrArg (fun plan => (l.meaning.decode plan f.default s).1) (h.plan_eq hf hkind)
  exact hdecode.trans (l.meaning.decode_ofKind_value _ _ _ _)

theorem IsPlanned.value?_decode (h : l.IsPlanned c d) {f : LiveField F} (hf : f ∈ l.fields)
    (s : Shelf) :
    (l.decode s).1.value? f.name = some (l.meaning.decode f.plan f.default s).1 := by
  rw [decode, decodeFields_values l h.nodup, Snapshot.value?, lookup_map_name,
    find?_name h.nodup hf, Option.map_some]

theorem IsPlanned.decode_value? (h : l.IsPlanned c d) {f : LiveField F} (hf : f ∈ l.fields)
    {kind : FieldKind} (hkind : c.kindOf d.name f.plan.field = .ok kind) (s : Shelf) :
    (l.decode s).1.value? f.name =
      some ((l.meaning.reading f.plan.field kind (s.store.get? f.name)).getD f.default) := by
  rw [h.value?_decode hf, h.decode_value hf hkind]

theorem IsPlanned.names_decode (h : l.IsPlanned c d) (s : Shelf) :
    (l.decode s).1.map (·.1) = l.fields.map (·.name) := by
  rw [decode, decodeFields_values l h.nodup, List.map_map]
  rfl

/-- Reading a layout leaves under the key of a field what writing its default leaves, where the
field asks for it, its entry counts as missing and nothing withholds the default. -/
theorem IsPlanned.decode_entry (h : l.IsPlanned c d) {f : LiveField F} (hf : f ∈ l.fields)
    {kind : FieldKind} (hkind : c.kindOf d.name f.plan.field = .ok kind) (s : Shelf) :
    (l.decode s).2.store.get? f.name =
      if f.plan.field.persistDefault &&
          (l.meaning.reading f.plan.field kind (s.store.get? f.name)).isNone &&
          !kind.withholds f.plan.field.type.nullable f.default then
        (l.meaning.encode f.plan.field f.plan.encode f.default s).store.get? f.name
      else s.store.get? f.name := by
  have hplan := h.plan_eq hf hkind
  have hdecode := congrArg (fun plan => (l.meaning.decode plan f.default s).2.store.get? f.name)
    hplan
  have hsteps : f.plan.encode = encodeSteps f.plan.field kind :=
    congrArg FieldPlan.encode hplan
  rw [decode, decodeFields_entry l h.nodup, find?_name h.nodup hf, hsteps]
  exact hdecode.trans (l.meaning.decode_ofKind_entry _ _ _ _)

theorem decode_entry_of_forall_ne (h : l.IsPlanned c d) {key : String}
    (hkey : ∀ f ∈ l.fields, f.name ≠ key) (s : Shelf) :
    (l.decode s).2.store.get? key = s.store.get? key := by
  have hnone : l.fields.find? (·.name == key) = none := by
    rw [List.find?_eq_none]
    intro f hf heq
    exact hkey f hf (beq_iff_eq.1 heq)
  rw [decode, decodeFields_entry l h.nodup, hnone]

end Layout

end TypedPreferences
