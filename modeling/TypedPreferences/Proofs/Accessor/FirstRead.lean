import TypedPreferences.Accessor.Accessor
import TypedPreferences.Proofs.Samples.Planned

/-! What the first snapshot of an accessor shows, and what reading it leaves in the store. Each
field is on its own: its entry decides what it shows, and its key is the only one that may
change. -/

namespace TypedPreferences

namespace Engine

theorem store_setStore (e : Engine) (id : String) (s : Store) (k : String) :
    (e.setStore id s).store k = if k = id then s else e.store k := by
  rw [store, setStore, SortedMap.get?_insert]
  split
  · rfl
  · rfl

end Engine

namespace Accessor

variable {F : Type}

theorem get_value_fresh (l : Layout F) (space : String) (w : Space F) :
    (({ layout := l, space } : Accessor F).get w).1.value = (l.decode (w.shelf space)).1 := rfl

theorem get_engine_fresh (l : Layout F) (space : String) (w : Space F) :
    (({ layout := l, space } : Accessor F).get w).2.2.engine =
      w.engine.setStore space (l.decode (w.shelf space)).2.store := rfl

variable {l : Layout F} {c : Context} {d : Declaration}

/-- An entry of a kind in which its field is never written counts as missing, unless the field is
stored as a truth value: such a field shows what it shows for a stored `false`. -/
theorem first_get_of_other_kind (h : l.IsPlanned c d) {f : LiveField F} (hf : f ∈ l.fields)
    (w : Space F) (space : String) :
    let nullable := f.plan.field.type.nullable
    let shown := (({ layout := l, space } : Accessor F).get w).1.value.value? f.name
    ∃ kind, c.kindOf d.name f.plan.field = .ok kind ∧
      (∀ value s e,
        (l.meaning.encode f.plan.field f.plan.encode value s).store.get? f.name = some e →
          s.store.get? f.name = some e ∨ e.kind = kind.carrier nullable) ∧
      ((w.engine.store space).get? f.name = none → shown = some f.default) ∧
      ∀ e, (w.engine.store space).get? f.name = some e → e.kind ≠ kind.carrier nullable →
        shown = some (if kind.storesTruth nullable then
          (l.meaning.decode f.plan f.default
            ⟨Store.write SortedMap.empty .boolean f.name false, []⟩).1
        else f.default) := by
  intro nullable shown
  obtain ⟨kind, hkind, -⟩ := h.kindOf hf
  have hplan := h.plan_eq hf hkind
  have hshown : shown = some ((l.meaning.reading f.plan.field kind
      ((w.engine.store space).get? f.name)).getD f.default) :=
    h.decode_value? hf hkind (w.shelf space)
  refine ⟨kind, hkind, ?_, ?_, ?_⟩
  -- Writing leaves an entry of one kind.
  · intro value s e he
    have hsteps : f.plan.encode = encodeSteps f.plan.field kind := congrArg FieldPlan.encode hplan
    rw [hsteps] at he
    exact l.meaning.kind_of_entryAfter ((l.meaning.get?_encode _ _ _ s).symm.trans he)
  -- No entry is no value.
  · intro hmissing
    rw [hshown, hmissing, l.meaning.reading_none]
    rfl
  -- An entry of another kind is no value either, or it is false.
  · intro e he hne
    have hfalse : (Store.write SortedMap.empty .boolean f.name false).get? f.name =
        some ⟨.boolean, false⟩ := (Store.get?_write _ _ _ _ _).trans (if_pos rfl)
    rw [hshown, he, l.meaning.reading_of_kind_ne _ hne, h.decode_value hf hkind]
    cases kind.storesTruth nullable with
    | false => rfl
    | true => rw [if_pos rfl, if_pos rfl, hfalse]

open Samples in
/-- An optional whole number is stored as a longer one, so one that is not longer is not read. -/
theorem first_get_of_other_kind_count :
    let held : Store := SortedMap.empty.insert "count" ⟨.integer, (7 : Int32)⟩
    let w : Space Foreign := { engine := SortedMap.empty.insert "NullableData" held }
    nullableData.layout.IsPlanned nullableData.context nullableData.declaration ∧
      (({ layout := nullableData.layout, space := "NullableData" } : Accessor Foreign).get
        w).1.value.value? "count" = some (given .integer (5 : Int32)) := by
  intro held w
  have hplanned : nullableData.layout.IsPlanned nullableData.context nullableData.declaration :=
    isPlanned_of_mem (by simp [samples])
  let f : LiveField Foreign :=
    ⟨.ofKind (SampleField.declared
      ⟨"count", optional (plain "i32"), false, given .integer (5 : Int32)⟩) (.primitive .integer),
      given .integer (5 : Int32)⟩
  have hf : f ∈ nullableData.layout.fields := List.mem_of_getElem? (i := 1) rfl
  have hkind : nullableData.context.kindOf nullableData.name f.plan.field =
      .ok (.primitive .integer) := rfl
  have hentry : (w.engine.store "NullableData").get? f.name = some ⟨.integer, (7 : Int32)⟩ := rfl
  obtain ⟨kind, hfound, -, -, hother⟩ := first_get_of_other_kind hplanned hf w "NullableData"
  obtain rfl : .primitive .integer = kind := Except.ok.inj (hkind.symm.trans hfound)
  exact ⟨hplanned, hother _ hentry (by decide)⟩

open Samples in
/-- A field that is stored as a truth value is not read as its default when a whole number stands
under its key: it shows `false`. -/
theorem first_get_flag_of_other_kind :
    let held : Store := SortedMap.empty.insert "flag" ⟨.integer, (5 : Int32)⟩
    let w : Space Foreign := { engine := SortedMap.empty.insert "primitive" held }
    ∃ f ∈ primitiveData.layout.fields,
      f.name = "flag" ∧
      primitiveData.context.kindOf primitiveData.name f.plan.field =
        .ok (.primitive .boolean) ∧
      (FieldKind.primitive .boolean).carrier f.plan.field.type.nullable ≠ .integer ∧
      (({ layout := primitiveData.layout, space := "primitive" } : Accessor Foreign).get
        w).1.value.value? "flag" = some (value .boolean false) ∧
      some (value .boolean false) ≠ some f.default := by
  intro held w
  let f : LiveField Foreign :=
    ⟨.ofKind (SampleField.declared ⟨"flag", plain "bool", false, value .boolean true⟩)
      (.primitive .boolean), value .boolean true⟩
  have hf : f ∈ primitiveData.layout.fields := List.mem_of_getElem? (i := 0) rfl
  refine ⟨f, hf, rfl, rfl, by decide, rfl, ?_⟩
  intro hsame
  have hvalue : some false = some true := congrArg (·.bind (·.as? .boolean)) hsame
  cases hvalue

/-- The first snapshot is read without touching more than it must. Other stores stay, and so do the
entries that are no field's. A field shows what its entry reads as, or its default when the entry
counts as missing; only then, if the field asks for it and nothing withholds the default, is the
default written under its key. -/
theorem first_get_writes_only_absent (h : l.IsPlanned c d) (w : Space F) (space : String) :
    let before := w.engine.store space
    let shown := (({ layout := l, space } : Accessor F).get w).1.value
    let after := (({ layout := l, space } : Accessor F).get w).2.2.engine
    (∀ id, id ≠ space → after.store id = w.engine.store id) ∧
      (∀ key, (∀ f ∈ l.fields, f.name ≠ key) →
        (after.store space).get? key = before.get? key) ∧
      ∀ f ∈ l.fields, ∃ kind, c.kindOf d.name f.plan.field = .ok kind ∧
        let found := l.meaning.reading f.plan.field kind (before.get? f.name)
        shown.value? f.name = some (found.getD f.default) ∧
          (after.store space).get? f.name =
            if f.plan.field.persistDefault && found.isNone &&
                !kind.withholds f.plan.field.type.nullable f.default then
              (l.meaning.encode f.plan.field f.plan.encode f.default
                (w.shelf space)).store.get? f.name
            else before.get? f.name := by
  intro before shown after
  -- All that is written is put back in place of the one store that was read.
  have hafter (id : String) : after.store id =
      if id = space then (l.decode (w.shelf space)).2.store else w.engine.store id := by
    change (Accessor.get _ w).2.2.engine.store id = _
    rw [get_engine_fresh, Engine.store_setStore]
  have hspace : after.store space = (l.decode (w.shelf space)).2.store := by
    rw [hafter, if_pos rfl]
  refine ⟨?_, ?_, ?_⟩
  · intro id hid
    rw [hafter, if_neg hid]
  -- No field is stored under the key, so no field is there to write it.
  · intro key hkey
    rw [hspace, Layout.decode_entry_of_forall_ne h hkey]
    rfl
  · intro f hf
    obtain ⟨kind, hkind, -⟩ := h.kindOf hf
    refine ⟨kind, hkind, h.decode_value? hf hkind (w.shelf space), ?_⟩
    rw [hspace]
    exact h.decode_entry hf hkind (w.shelf space)

open Samples in
/-- The text that is the default of a flagged field is written over a number, and a number that is
there stays. -/
theorem first_get_writes_label :
    let held : Store := (SortedMap.empty.insert "label" ⟨.integer, (7 : Int32)⟩).insert "count"
      ⟨.integer, (9 : Int32)⟩
    let w : Space Foreign := { engine := SortedMap.empty.insert "primitive" held }
    let after := (({ layout := primitiveData.layout, space := "primitive" } :
      Accessor Foreign).get w).2.2.engine
    primitiveData.layout.IsPlanned primitiveData.context primitiveData.declaration ∧
      (after.store "primitive").get? "label" = some ⟨.text, "hello"⟩ ∧
      (after.store "primitive").get? "count" = some ⟨.integer, (9 : Int32)⟩ := by
  intro held w after
  have hplanned :
      primitiveData.layout.IsPlanned primitiveData.context primitiveData.declaration :=
    isPlanned_of_mem (by simp [samples])
  let label : LiveField Foreign :=
    ⟨.ofKind (SampleField.declared ⟨"label", plain "String", true, value .text "hello"⟩)
      (.primitive .text), value .text "hello"⟩
  let count : LiveField Foreign :=
    ⟨.ofKind (SampleField.declared ⟨"count", plain "i32", true, value .integer (42 : Int32)⟩)
      (.primitive .integer), value .integer (42 : Int32)⟩
  have hlabel : label ∈ primitiveData.layout.fields := List.mem_of_getElem? (i := 6) rfl
  have hcount : count ∈ primitiveData.layout.fields := List.mem_of_getElem? (i := 1) rfl
  -- The entry under `label` is of another kind than text, the one under `count` is of its kind.
  obtain ⟨-, -, hfields⟩ := first_get_writes_only_absent hplanned w "primitive"
  refine ⟨hplanned, ?_, ?_⟩
  · have hwritten := primitiveData.layout.meaning.get?_encode label.plan.field (.primitive .text)
      label.default (w.shelf "primitive")
    obtain ⟨kind, hfound, -, hentry⟩ := hfields label hlabel
    obtain rfl : .primitive .text = kind := Except.ok.inj hfound
    exact hentry.trans ((if_pos rfl).trans hwritten)
  · obtain ⟨kind, hfound, -, hentry⟩ := hfields count hcount
    obtain rfl : .primitive .integer = kind := Except.ok.inj hfound
    exact hentry

end Accessor

end TypedPreferences
