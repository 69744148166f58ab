import TypedPreferences.Proofs.Accessor.Rereading
import TypedPreferences.Proofs.Samples.Converters

/-! The defaults of the samples that are written return, so a second accessor of a sample shows what
the first one showed, whatever the store held at first. -/

namespace TypedPreferences.Samples

/-- A field of a sample, planned as one of a kind. -/
def plannedField (f : SampleField) (kind : FieldKind) : LiveField Foreign :=
  ⟨.ofKind f.declared kind, f.default⟩

def sincePair : ConverterPair :=
  ⟨(dateFunctions.get ⟨0, Nat.zero_lt_succ _⟩).declared,
    (dateFunctions.get ⟨1, Nat.succ_lt_succ (Nat.zero_lt_succ _)⟩).declared, .long⟩

def powerPair : ConverterPair :=
  ⟨(powerFunctions.get ⟨0, Nat.zero_lt_succ _⟩).declared,
    (powerFunctions.get ⟨1, Nat.succ_lt_succ (Nat.zero_lt_succ _)⟩).declared, .boolean⟩

theorem persisted_primitiveData :
    primitiveData.layout.fields.filter (·.plan.field.persistDefault) =
      [plannedField primitiveData.fields[1] (.primitive .integer),
        plannedField primitiveData.fields[4] (.primitive .double),
        plannedField primitiveData.fields[6] (.primitive .text),
        plannedField primitiveData.fields[8] .ordinal,
        plannedField primitiveData.fields[10] (.primitive .integer),
        plannedField primitiveData.fields[11] (.primitive .boolean)] := rfl

theorem persisted_nullableData :
    nullableData.layout.fields.filter (·.plan.field.persistDefault) =
      [plannedField nullableData.fields[4] (.primitive .double),
        plannedField nullableData.fields[8] .ordinal,
        plannedField nullableData.fields[10] (.primitive .boolean)] := rfl

theorem persisted_customData :
    customData.layout.fields.filter (·.plan.field.persistDefault) =
      [plannedField customData.fields[0] (.converted sincePair),
        plannedField customData.fields[5] (.converted powerPair)] := rfl

theorem sound_levels : Level.ordinals.Sound :=
  ⟨by decide, by decide⟩

/-- The defaults of a sample return when those of the fields that may write them do. -/
theorem defaultsReturn_of_persisted {s : Sample} {written : List (LiveField Foreign)}
    (hwritten : s.layout.fields.filter (·.plan.field.persistDefault) = written)
    (h : ∀ f ∈ written, ∀ kind, s.context.kindOf s.name f.plan.field = .ok kind →
      s.meaning.Returns f.plan.field kind f.default) :
    s.layout.DefaultsReturn s.context s.declaration := by
  intro f hf kind hkind hpersist
  have hmem : f ∈ written := hwritten ▸ List.mem_filter.2 ⟨hf, hpersist⟩
  exact h f hmem kind hkind

theorem returns_primitive {s : Sample} {f : SampleField} {kind : Primitive} {found : FieldKind}
    (hkind : s.context.kindOf s.name f.declared = .ok found) (hfound : .primitive kind = found)
    (hvalue : s.meaning.IsValue f.declared (.primitive kind) f.default) :
    s.meaning.Returns f.declared found f.default := by
  subst hfound
  exact s.meaning.returns_of_kept hkind hvalue (fun h => by cases h) (fun _ h => by cases h) rfl

theorem defaultsReturn_primitiveData :
    primitiveData.layout.DefaultsReturn primitiveData.context primitiveData.declaration := by
  apply defaultsReturn_of_persisted persisted_primitiveData
  intro f hf kind hkind
  simp only [List.mem_cons, List.not_mem_nil, or_false] at hf
  rcases hf with rfl | rfl | rfl | rfl | rfl | rfl
  · exact returns_primitive hkind (Except.ok.inj hkind) ⟨_, rfl⟩
  · exact returns_primitive hkind (Except.ok.inj hkind) ⟨_, rfl⟩
  · exact returns_primitive hkind (Except.ok.inj hkind) ⟨_, rfl⟩
  · obtain rfl : .ordinal = kind := Except.ok.inj hkind
    exact primitiveData.meaning.returns_of_kept hkind ⟨"Medium", by decide, rfl⟩
      (fun _ => sound_levels) (fun _ h => by cases h) rfl
  · exact returns_primitive hkind (Except.ok.inj hkind) ⟨_, rfl⟩
  · exact returns_primitive hkind (Except.ok.inj hkind) ⟨_, rfl⟩

theorem defaultsReturn_nullableData :
    nullableData.layout.DefaultsReturn nullableData.context nullableData.declaration := by
  apply defaultsReturn_of_persisted persisted_nullableData
  intro f hf kind hkind
  simp only [List.mem_cons, List.not_mem_nil, or_false] at hf
  rcases hf with rfl | rfl | rfl
  · exact returns_primitive hkind (Except.ok.inj hkind) (.inr ⟨_, ⟨_, rfl⟩, rfl⟩)
  · obtain rfl : .ordinal = kind := Except.ok.inj hkind
    exact nullableData.meaning.returns_of_kept hkind (.inl rfl)
      (fun _ => sound_levels) (fun _ h => by cases h) rfl
  · exact returns_primitive hkind (Except.ok.inj hkind) (.inr ⟨_, ⟨_, rfl⟩, rfl⟩)

theorem defaultsReturn_customData :
    customData.layout.DefaultsReturn customData.context customData.declaration := by
  apply defaultsReturn_of_persisted persisted_customData
  intro f hf kind hkind
  simp only [List.mem_cons, List.not_mem_nil, or_false] at hf
  rcases hf with rfl | rfl
  · obtain rfl : .converted sincePair = kind := Except.ok.inj hkind
    have hkept := congrArg (fun d => Datum.foreign (Foreign.date d))
      (daysToDate_dateToDays ⟨2024, 1, 1, by decide⟩)
    exact customData.meaning.returns_of_kept hkind ⟨_, rfl⟩ (fun h => by cases h)
      (fun _ h => by cases h) hkept
  · obtain rfl : .converted powerPair = kind := Except.ok.inj hkind
    have hkept := congrArg (fun p => Datum.foreign (Foreign.power p)) (boolToPower_powerToBool .on)
    exact customData.meaning.returns_of_kept hkind ⟨_, rfl⟩ (fun h => by cases h)
      (fun _ h => by cases h) hkept

/-- Reading a store settles it, whatever it held at first: wrong kinds, reserved numbers, bytes that
hold no value. An accessor that reads it afterwards shows the same values and leaves all stores as
they are. -/
theorem second_get_settled {s : Sample} (hs : s ∈ [primitiveData, nullableData, customData])
    (w : Space Foreign) (space : String) :
    let fresh : Accessor Foreign := { layout := s.layout, space }
    let after := (fresh.get w).2.2
    (fresh.get after).1.value = (fresh.get w).1.value ∧
      (fresh.get after).2.2.engine = after.engine := by
  have hplanned : s.layout.IsPlanned s.context s.declaration := by
    have hsample : s ∈ samples :=
      List.mem_append_left [edgePlain, edgeNullable, edgeConverted] hs
    exact isPlanned_of_mem hsample
  have hdefaults : s.layout.DefaultsReturn s.context s.declaration := by
    simp only [List.mem_cons, List.not_mem_nil, or_false] at hs
    rcases hs with rfl | rfl | rfl
    · exact defaultsReturn_primitiveData
    · exact defaultsReturn_nullableData
    · exact defaultsReturn_customData
  exact Accessor.second_get hplanned hdefaults w space

/-- A number that is no truth value gives way to the default, and bytes that are too short for a
number do: only once. -/
theorem second_get_settled_nullableData :
    let held : Store := (SortedMap.empty.insert "precise" ⟨.byteSequence, [1, 2, 3]⟩).insert
      "enabled" ⟨.integer, (7 : Int32)⟩
    let w : Space Foreign := { engine := SortedMap.empty.insert "NullableData" held }
    nullableData ∈ [primitiveData, nullableData, customData] ∧
      (nullableData.layout.decode ⟨held, []⟩).2.store.get? "enabled" =
        some ⟨.integer, (1 : Int32)⟩ ∧
      let fresh : Accessor Foreign := { layout := nullableData.layout, space := "NullableData" }
      let after := (fresh.get w).2.2
      (fresh.get after).1.value = (fresh.get w).1.value ∧
        (fresh.get after).2.2.engine = after.engine := by
  intro held w
  have hs : nullableData ∈ [primitiveData, nullableData, customData] :=
    List.mem_cons_of_mem _ List.mem_cons_self
  have hplanned : nullableData.layout.IsPlanned nullableData.context nullableData.declaration :=
    isPlanned_of_mem (List.mem_append_left [edgePlain, edgeNullable, edgeConverted] hs)
  have hf : plannedField nullableData.fields[10] (.primitive .boolean) ∈
      nullableData.layout.fields := List.mem_of_getElem? (i := 10) rfl
  refine ⟨hs, ?_, second_get_settled hs w "NullableData"⟩
  exact (hplanned.decode_entry_eq hf rfl ⟨held, []⟩).trans rfl

end TypedPreferences.Samples
