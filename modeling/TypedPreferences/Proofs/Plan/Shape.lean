import TypedPreferences.Proofs.Fields.Reading
import TypedPreferences.Samples.Declarations

/-! The shape of every plan: one read, one check for absence and one product on the one side, one
write at the end of the other, and both sides use the store in the same way. The check is one that
tells when there is no entry. -/

namespace TypedPreferences

/-- The ways in which a field is kept in a store: how it is read, which check tells that it is
missing, and how it is written. -/
inductive Kept : Read → AbsenceCheck → Write → Prop where
  -- A number of the kind is reserved for a missing one.
  | number {kind : Primitive} (h : kind.usesSentinel = true) :
    Kept (.scalar kind) .sentinel (.scalar kind)
  -- No truth value is left over for a missing one.
  | truth : Kept (.scalar .boolean) .keyMissing (.scalar .boolean)
  | existence {kind : Primitive} (h : kind.isExistenceChecked = true) (nullable : Bool) :
    Kept (.existence kind) .noneValue (.existence kind nullable)
  | ordinal (nullable : Bool) : Kept .ordinal .noneValue (.ordinal nullable)
  | marshal (nullable : Bool) : Kept .marshal .noneValue (.marshal nullable)
  -- A wider kind carries the value.
  | carried {kind : Primitive} (h : kind.isExistenceChecked = false) :
    Kept (.nullableScalar kind) .noneValue (.nullableScalar kind)

/-- A read with its check for absence. Whether a key is missing is asked before the read, and all
else is asked of the value that was read. -/
def checkedRead (raw : Read) (check : AbsenceCheck) (branch : List AbsentStep) : List DecodeStep :=
  if check = .keyMissing then [.onAbsent check branch, .read raw]
  else [.read raw, .onAbsent check branch]

/-- A plan that keeps its field in a given way: it reads once with one check for absence and ends
with its only product, falls back to the default, which it writes first just when the field asks for
that, and after any conversions it writes once. -/
structure FieldPlan.Keeps (plan : FieldPlan) (raw : Read) (check : AbsenceCheck) (written : Write) :
    Prop where
  kept : Kept raw check written
  decode : ∃ guard product wraps,
    plan.decode =
      checkedRead raw check
        ((if plan.field.persistDefault then [.persistDefault guard] else []) ++ [.returnDefault]) ++
        [.produce product wraps]
  encode : ∃ calls : List EncodeCall, plan.encode = calls.map .convert ++ [.write written]

/-- Only truth values are looked up by their key. -/
theorem Kept.keyMissing_iff {raw : Read} {check : AbsenceCheck} {written : Write}
    (h : Kept raw check written) : check = .keyMissing ↔ raw = .scalar .boolean := by
  cases h with
  | number hkind =>
    constructor
    · nofun
    · intro hraw
      cases hraw
      cases hkind
  | truth => exact ⟨fun _ => rfl, fun _ => rfl⟩
  | existence _ _ => exact ⟨nofun, nofun⟩
  | ordinal _ => exact ⟨nofun, nofun⟩
  | marshal _ => exact ⟨nofun, nofun⟩
  | carried _ => exact ⟨nofun, nofun⟩

/-- The check of each way tells that there is no entry: what is read in its place is the reserved
number or no value at all, and a key that is asked for is not there. -/
theorem Kept.isMissing_of_no_entry {raw : Read} {check : AbsenceCheck} {written : Write}
    (h : Kept raw check written) {F : Type} (m : Meaning F) {field : Field} {s : Shelf}
    (hnone : s.store.get? field.name = none) :
    Meaning.isMissing field (m.read field raw s).1 (m.read field raw s).2 check = true := by
  have hread (kind : Primitive) : Store.read? s.store kind field.name = none := by
    rw [Store.read?, hnone]
    rfl
  cases h with
  | @number kind hkind =>
    -- Reading gives the reserved number where there is no entry, whichever kind of number it is.
    have hvalue (reserved : kind.Value)
        (hscalar : Meaning.readScalar (F := F) kind s.store field.name =
          .stored ⟨kind, Store.read s.store kind field.name reserved⟩)
        (hreserved : kind.isSentinel reserved = true) :
        (Meaning.readScalar (F := F) kind s.store field.name).isSentinel = true := by
      rw [hscalar, Store.read, hread kind]
      exact hreserved
    cases kind with
    | integer => exact hvalue _ rfl rfl
    | long => exact hvalue _ rfl rfl
    | float => exact hvalue _ rfl rfl
    | double => exact hvalue _ rfl rfl
    | _ => cases hkind
  | truth =>
    -- No truth value is reserved, so it is the key that is asked for.
    change (!SortedMap.contains s.store field.name) = true
    rw [SortedMap.contains, hnone]
    rfl
  | @existence kind _ _ =>
    change (Meaning.readOption kind s.store field.name).isAbsent = true
    rw [Meaning.readOption, hread kind]
    rfl
  | ordinal _ =>
    rw [m.read_ordinal, hnone]
    rfl
  | marshal _ =>
    rw [m.read_marshal, hnone]
    rfl
  | @carried kind _ =>
    change (Meaning.readNullable kind s.store field.name).isAbsent = true
    have hoptional : kind.optionalIn none = none := by cases kind <;> rfl
    rw [Meaning.readNullable_eq, hnone, hoptional]
    rfl

/-- A value that is not optional in the store is kept as its kind asks. -/
theorem exists_kept_readPresent (kind : Primitive) (nullable : Bool) :
    ∃ raw check, Kept raw check (if kind.isExistenceChecked then .existence kind nullable
        else .scalar kind) ∧
      ∀ branch, readPresent kind branch = checkedRead raw check branch := by
  unfold readPresent
  by_cases hexists : kind.isExistenceChecked = true
  · refine ⟨.existence kind, .noneValue, ?_, fun branch => ?_⟩
    · rw [if_pos hexists]
      exact .existence hexists nullable
    · rw [if_pos hexists]
      rfl
  · by_cases hsentinel : kind.usesSentinel = true
    · refine ⟨.scalar kind, .sentinel, ?_, fun branch => ?_⟩
      · rw [if_neg hexists]
        exact .number hsentinel
      · rw [if_neg hexists, if_pos hsentinel]
        rfl
    -- Every kind but the truth values has one of the two.
    · have hboolean : kind = .boolean := by
        cases kind <;> first | rfl | exact absurd rfl hexists | exact absurd rfl hsentinel
      subst hboolean
      exact ⟨.scalar .boolean, .keyMissing, .truth, fun branch => rfl⟩

section Kinds

variable (field : Field)

theorem keeps_ordinal :
    (FieldPlan.ofKind field .ordinal).Keeps .ordinal .noneValue (.ordinal field.type.nullable) where
  kept := .ordinal _
  decode := ⟨_, _, _, rfl⟩
  encode := ⟨[], rfl⟩

theorem keeps_structured : (FieldPlan.ofKind field .structured).Keeps .marshal .noneValue
    (.marshal field.type.nullable) where
  kept := .marshal _
  decode := ⟨_, _, _, rfl⟩
  encode := ⟨[], rfl⟩

/-- A field of a kind of values is kept as it is, unless it is optional and the kind tells no
absence. -/
theorem exists_keeps_primitive (kind : Primitive) :
    ∃ raw check, (FieldPlan.ofKind field (.primitive kind)).Keeps raw check
      (writePrimitive kind field.type.nullable) := by
  by_cases hplain : (kind.isExistenceChecked || !field.type.nullable) = true
  · obtain ⟨raw, check, hkept, hread⟩ := exists_kept_readPresent kind field.type.nullable
    have hwrite : writePrimitive kind field.type.nullable =
        if kind.isExistenceChecked then .existence kind field.type.nullable else .scalar kind := by
      unfold writePrimitive
      by_cases hexists : kind.isExistenceChecked = true
      · rw [if_pos hexists, if_pos hexists]
      · have hpresent : field.type.nullable = false := by simpa [hexists] using hplain
        rw [if_neg hexists, if_neg hexists, hpresent, if_neg Bool.false_ne_true]
    refine ⟨raw, check, hwrite ▸ hkept, ?_, ⟨[], rfl⟩⟩
    refine ⟨if kind.usesSentinel then .defaultNotSentinel else .always,
      if kind = .textSet then .collectSet else .value, field.type.nullable, ?_⟩
    change decodePrimitive kind field.persistDefault field.type.nullable = _
    rw [decodePrimitive, if_pos hplain, hread]
    rfl
  -- What is left is an optional number or truth value, which a wider kind carries.
  · have hexists : kind.isExistenceChecked = false := by
      cases hkind : kind.isExistenceChecked with
      | false => rfl
      | true => exact absurd (by rw [hkind, Bool.true_or]) hplain
    have hnullable : field.type.nullable = true := by simpa [hexists] using hplain
    have hwrite : writePrimitive kind field.type.nullable = .nullableScalar kind := by
      rw [writePrimitive, hexists, hnullable, if_neg Bool.false_ne_true, if_pos rfl]
    refine ⟨.nullableScalar kind, .noneValue, hwrite ▸ .carried hexists, ?_, ⟨[], rfl⟩⟩
    refine ⟨.always, if kind = .textSet then .collectSet else .value, field.type.nullable, ?_⟩
    change decodePrimitive kind field.persistDefault field.type.nullable = _
    rw [decodePrimitive, if_neg hplain]
    rfl

/-- A converted field is kept as what its encoder gives. -/
theorem exists_keeps_converted (pair : ConverterPair) :
    ∃ raw check, (FieldPlan.ofKind field (.converted pair)).Keeps raw check
      (if pair.primitive.isExistenceChecked then
        .existence pair.primitive pair.nullableIntermediate
      else .scalar pair.primitive) := by
  obtain ⟨raw, check, hkept, hread⟩ :=
    exists_kept_readPresent pair.primitive pair.nullableIntermediate
  refine ⟨raw, check, hkept, ?_, ⟨[⟨pair.encoder.path, pair.encoder.receiver.byRef,
    pair.encoder.receiver.nullable && !field.type.nullable⟩], rfl⟩⟩
  refine ⟨.always, .decoded ⟨pair.decoder.path, pair.decoder.receiver.byRef,
    pair.decoder.receiver.nullable, pair.primitive = .textSet⟩,
    field.type.nullable && !pair.decoder.output.nullable, ?_⟩
  change decodeConverted pair field.persistDefault field.type.nullable = _
  rw [decodeConverted, hread]
  rfl

theorem exists_keeps (kind : FieldKind) :
    ∃ raw check written, (FieldPlan.ofKind field kind).Keeps raw check written := by
  cases kind with
  | ordinal => exact ⟨_, _, _, keeps_ordinal field⟩
  | structured => exact ⟨_, _, _, keeps_structured field⟩
  | primitive kind =>
    obtain ⟨raw, check, hkeeps⟩ := exists_keeps_primitive field kind
    exact ⟨raw, check, _, hkeeps⟩
  | converted pair =>
    obtain ⟨raw, check, hkeeps⟩ := exists_keeps_converted field pair
    exact ⟨raw, check, _, hkeeps⟩

end Kinds

namespace Context

variable {c : Context} {declaration : String} {field : Field} {kind : FieldKind} {plan : FieldPlan}

theorem planOf_of_planField
    (h : (c.planField declaration field).perform.1 = .ok (kind, plan)) :
    c.planOf declaration field = .ok (kind, plan) := by
  change ((c.planField declaration field).run.run #[]).1 = _ at h
  rw [planField_run] at h
  cases hplan : c.planOf declaration field with
  | error fault =>
    rw [hplan] at h
    cases h
  | ok found =>
    rw [hplan] at h
    exact h

/-- Every field that can be planned is kept in one of the ways there are, its key is looked up just
when it is a truth value, and whenever its key has no entry the check of the plan tells so. -/
theorem keeps_of_planField
    (h : (c.planField declaration field).perform.1 = .ok (kind, plan)) :
    plan.field = field ∧ ∃ raw check written, plan.Keeps raw check written ∧
      (check = .keyMissing ↔ raw = .scalar .boolean) ∧
      ∀ (F : Type) (m : Meaning F) (s : Shelf), s.store.get? field.name = none →
        Meaning.isMissing field (m.read field raw s).1 (m.read field raw s).2 check = true := by
  obtain ⟨-, rfl⟩ := planOf_eq_ok.1 (planOf_of_planField h)
  obtain ⟨raw, check, written, hkeeps⟩ := exists_keeps field kind
  refine ⟨rfl, raw, check, written, hkeeps, hkeeps.kept.keyMissing_iff, ?_⟩
  intro F m s hnone
  exact hkeeps.kept.isMissing_of_no_entry m hnone

section Power

open Samples Source

/-- A field that is stored as a truth value through converters, and whose default is written. -/
def powerField : Field := ⟨"power", .ofTy (plain "Power"), some [.ident "Power"], true⟩

theorem keeps_of_planField_power : ∃ pair plan,
    (customData.context.planField "CustomData" powerField).perform.1 =
        .ok (.converted pair, plan) ∧ pair.primitive = .boolean ∧
      plan.field = powerField ∧ ∃ raw check written, plan.Keeps raw check written ∧
      (check = .keyMissing ↔ raw = .scalar .boolean) ∧
      ∀ (F : Type) (m : Meaning F) (s : Shelf), s.store.get? powerField.name = none →
        Meaning.isMissing powerField (m.read powerField raw s).1 (m.read powerField raw s).2 check =
          true := by
  have hplanned : ∃ pair plan, (customData.context.planField "CustomData" powerField).perform.1 =
      .ok (.converted pair, plan) ∧ pair.primitive = .boolean := ⟨_, _, rfl, rfl⟩
  obtain ⟨pair, plan, hplan, hkind⟩ := hplanned
  exact ⟨pair, plan, hplan, hkind, keeps_of_planField hplan⟩

end Power

end Context

end TypedPreferences
