import TypedPreferences.Proofs.Fields.Reading
import TypedPreferences.Proofs.Store.Carriers
import TypedPreferences.Samples.Declarations

/-! What is written for a field is read back. The only values that do not come back are those whose
written form stands for a missing value, and in their place the default is read. -/

namespace TypedPreferences

/-- Values that may be missing or not, given the values that are there. -/
def Datum.Optionally {F : Type} (nullable : Bool) (P : Datum F → Prop) (d : Datum F) : Prop :=
  if nullable then d = .absent ∨ ∃ x, P x ∧ d = .present x else P d

/-- The entries of an enumeration can be told apart by their ordinals: they differ, and are no more
than there are ordinals. -/
structure Ordinals.Sound (o : Ordinals) : Prop where
  nodup : o.entries.Nodup
  length_le : o.entries.length ≤ 0x80000000

/-- A structured value that its type packs and reads back. -/
structure Structured.Keeps (t : Structured) (value : Packed.Tree) : Prop where
  accepts : t.refusal value = none
  reads : t.unpack? value.pack = some value

namespace Meaning

variable {F : Type} (m : Meaning F)

/-- The values of a field of a kind. A converted field has a type of its own, whose values are those
of which the encoder makes a value of the type it declares. -/
def IsValue (field : Field) (kind : FieldKind) (value : Datum F) : Prop :=
  match kind with
  | .ordinal =>
    value.Optionally field.type.nullable fun d =>
      ∃ e ∈ (m.ordinals field.typeName).entries, d = .entry e
  | .structured => value.Optionally field.type.nullable fun d => ∃ t, d = .tree t
  | .primitive kind => value.Optionally field.type.nullable fun d => ∃ v, d = .stored ⟨kind, v⟩
  | .converted pair =>
    (m.handed field kind value).Optionally pair.nullableIntermediate fun d =>
      ∃ v, d = .stored ⟨pair.primitive, v⟩

/-- Whether the written form of a value stands for a missing one: no value in an optional field or
in an optional value between converters, and otherwise the reserved number of its kind. -/
def writesAbsent (field : Field) (kind : FieldKind) (value : Datum F) : Bool :=
  match kind with
  | .ordinal | .structured => field.type.nullable && value.isAbsent
  | .primitive _ => if field.type.nullable then value.isAbsent else value.isSentinel
  | .converted pair =>
    let written := m.handed field kind value
    if pair.nullableIntermediate then written.isAbsent else written.isSentinel

/-- The value that a field holds once it was written and is read again: the value itself, or what
the decoder makes of what the encoder made of it. -/
def kept (field : Field) (kind : FieldKind) (value : Datum F) : Datum F :=
  match kind with
  | .converted pair => m.decoded field pair (m.handed field kind value).payload
  | _ => value

end Meaning

namespace Primitive

theorem bind_as?_mk {β : Type} (kind : Primitive) (v : kind.Value) (f : kind.Value → Option β) :
    ((some (Stored.mk kind v)).bind (·.as? kind)).bind f = f v := by
  rw [Option.bind_some, Stored.as?_mk, Option.bind_some]

theorem presentIn_mk (kind : Primitive) (v : kind.Value) :
    kind.presentIn (some ⟨kind, v⟩) = if kind.isSentinel v then none else some v := by
  by_cases hboolean : kind = .boolean
  · subst hboolean
    rfl
  · rw [presentIn_of_ne hboolean, Option.bind_some, Stored.as?_mk, Option.filter]
    cases kind.isSentinel v <;> rfl

theorem optionalIn_carried (kind : Primitive) (value : Option kind.Value) :
    kind.optionalIn (kind.carried value) = value := by
  have hkind (kind : Primitive) (o : Option kind.Value) :
      (o.map (Stored.mk kind ·)).bind (·.as? kind) = o := by
    cases o with
    | none => rfl
    | some v => exact Stored.as?_mk kind v
  -- The first two kinds have a carrier that is always there; that of the next three may be missing.
  cases kind with
  | boolean => exact (bind_as?_mk .integer _ _).trans (Nullable.decodeBool_encodeBool value)
  | integer => exact (bind_as?_mk .long _ _).trans (Nullable.decodeInt_encodeInt value)
  | long =>
    exact (congrArg Nullable.decodeLong (hkind .byteSequence _)).trans
      (Nullable.decodeLong_encodeLong value)
  | float =>
    exact (congrArg Nullable.decodeFloat (hkind .byteSequence _)).trans
      (Nullable.decodeFloat_encodeFloat value)
  | double =>
    exact (congrArg Nullable.decodeDouble (hkind .byteSequence _)).trans
      (Nullable.decodeDouble_encodeDouble value)
  | byteSequence => exact hkind _ value
  | text => exact hkind _ value
  | textSet => exact hkind _ value

end Primitive

namespace Meaning

variable {F : Type} (m : Meaning F)

theorem entryOf?_ordinalOf {field : Field} {e : String}
    (hsound : (m.ordinals field.typeName).Sound)
    (he : e ∈ (m.ordinals field.typeName).entries) :
    m.entryOf? field (m.ordinalOf field e) = some e := by
  obtain ⟨i, hi, rfl⟩ := List.getElem_of_mem he
  have hlt : i < 0x80000000 := Nat.lt_of_lt_of_le hi hsound.length_le
  have hint : (Int32.ofNat i).toInt = i := Int32.toInt_ofNat_of_lt hlt
  -- The place of the entry survives as a number with a sign, because it is below the greatest one.
  rw [ordinalOf, Ordinals.ordinal?_getElem _ hsound.nodup hi, entryOf?, Ordinals.ofOrdinal?_eq]
  dsimp only
  rw [hint, if_neg (by omega), Int.toNat_natCast, List.getElem?_eq_getElem hi]

theorem entryAfter_primitive_optional (field : Field) (kind : Primitive) (value : Datum F)
    (before : Option Stored) :
    m.entryAfter field (writePrimitive kind true) value before =
      kind.carried (value.optionAs kind) := by
  cases kind <;> rfl

theorem entryAfter_primitive_plain (field : Field) (kind : Primitive) (v : kind.Value)
    (before : Option Stored) :
    m.entryAfter field (writePrimitive kind false) (.stored ⟨kind, v⟩) before =
      some ⟨kind, v⟩ := by
  have hfits : (Datum.stored (F := F) ⟨kind, v⟩).as? kind = some v := Stored.as?_mk kind v
  rw [writePrimitive]
  split <;> simp only [entryAfter, Bool.false_eq_true, if_false, hfits]

theorem reading_ordinal_some (field : Field) (n : Int32) :
    m.reading field .ordinal (some ⟨.integer, n⟩) =
      (m.entryOf? field n).map fun e => field.wrap (.entry e) := by
  rw [reading]
  exact congrArg (Option.map _) (Primitive.bind_as?_mk .integer n (m.entryOf? field))

theorem reading_ordinal {field : Field} (hsound : (m.ordinals field.typeName).Sound)
    {value : Datum F} (hvalue : m.IsValue field .ordinal value) (before : Option Stored) :
    m.reading field .ordinal
        (m.entryAfter field (.ordinal field.type.nullable) value before) =
      if m.writesAbsent field .ordinal value then none else some value := by
  -- An ordinal that was written leads back to its entry.
  have hback {e : String} (he : e ∈ (m.ordinals field.typeName).entries) :
      m.reading field .ordinal (some ⟨.integer, m.ordinalOf field e⟩) =
        some (field.wrap (.entry e)) := by
    rw [reading_ordinal_some, m.entryOf?_ordinalOf hsound he, Option.map_some]
  rw [IsValue, Datum.Optionally] at hvalue
  rw [writesAbsent]
  cases hnullable : field.type.nullable with
  | false =>
    rw [hnullable, if_neg (by decide)] at hvalue
    obtain ⟨e, he, rfl⟩ := hvalue
    refine (hback he).trans ?_
    rw [Field.wrap, hnullable]
    rfl
  | true =>
    rw [hnullable, if_pos rfl] at hvalue
    rcases hvalue with rfl | ⟨x, ⟨e, he, rfl⟩, rfl⟩
    · -- The number that is written for no entry is no ordinal.
      refine (m.reading_ordinal_some field noOrdinal).trans ?_
      rw [m.entryOf?_noOrdinal]
      rfl
    · refine (hback he).trans ?_
      rw [Field.wrap, hnullable]
      rfl

theorem reading_structured {field : Field} {value : Datum F}
    (hvalue : m.IsValue field .structured value)
    (hkeeps : ∀ t, value.payload = .tree t → (m.structured field.typeName).Keeps t)
    (before : Option Stored) :
    m.reading field .structured
        (m.entryAfter field (.marshal field.type.nullable) value before) =
      if m.writesAbsent field .structured value then none else some value := by
  have hback {t : Packed.Tree} (hpayload : value.payload = .tree t) :
      m.reading field .structured
          (m.entryAfter field (.marshal field.type.nullable) value before) =
        some (field.wrap (.tree t)) := by
    obtain ⟨haccepts, hreads⟩ := hkeeps t hpayload
    -- The value is accepted, so its packed form is written and not the old entry kept.
    have hentry : m.entryAfter field (.marshal field.type.nullable) value before =
        some ⟨.byteSequence, t.pack⟩ := by
      simp only [entryAfter, hpayload, Datum.tree?, Structured.pack, haccepts]
    have hunpack := Primitive.bind_as?_mk .byteSequence t.pack
      (m.structured field.typeName).unpack?
    rw [hentry, reading]
    refine (congrArg (Option.map _) (hunpack.trans hreads)).trans ?_
    rw [Option.map_some]
  rw [IsValue, Datum.Optionally] at hvalue
  rw [writesAbsent]
  cases hnullable : field.type.nullable with
  | false =>
    rw [hnullable, if_neg (by decide)] at hvalue
    obtain ⟨t, rfl⟩ := hvalue
    rw [← hnullable, hback rfl, Field.wrap, hnullable]
    rfl
  | true =>
    rw [hnullable, if_pos rfl] at hvalue
    rcases hvalue with rfl | ⟨x, ⟨t, rfl⟩, rfl⟩
    · rfl
    · rw [← hnullable, hback rfl, Field.wrap, hnullable]
      rfl

/-- A primitive value reads back, unless it is the reserved one of a field that cannot be missing.
-/
theorem reading_primitive {field : Field} {kind : Primitive} {value : Datum F}
    (hvalue : m.IsValue field (.primitive kind) value) (before : Option Stored) :
    m.reading field (.primitive kind)
        (m.entryAfter field (writePrimitive kind field.type.nullable) value before) =
      if m.writesAbsent field (.primitive kind) value then none else some value := by
  rw [IsValue, Datum.Optionally] at hvalue
  cases hnullable : field.type.nullable with
  | false =>
    rw [hnullable, if_neg (by decide)] at hvalue
    obtain ⟨v, rfl⟩ := hvalue
    have habsent : m.writesAbsent field (.primitive kind) (.stored ⟨kind, v⟩) =
        kind.isSentinel v := by
      rw [writesAbsent, hnullable]
      rfl
    -- Written as it is, the value counts unless it is the reserved one.
    rw [entryAfter_primitive_plain, reading, hnullable, if_neg (by decide), habsent,
      Primitive.presentIn_mk]
    cases kind.isSentinel v with
    | true => rfl
    | false => simp only [Bool.false_eq_true, if_false, Option.map_some, Field.wrap, hnullable]
  | true =>
    rw [hnullable, if_pos rfl] at hvalue
    have habsent : m.writesAbsent field (.primitive kind) value = value.isAbsent := by
      rw [writesAbsent, hnullable]
      rfl
    -- Written through a carrier, every value counts, and so does that there is none.
    rw [entryAfter_primitive_optional, reading, hnullable, if_pos rfl, habsent,
      Primitive.optionalIn_carried]
    rcases hvalue with rfl | ⟨x, ⟨v, rfl⟩, rfl⟩
    · rfl
    · have hvalue : (Datum.present (F := F) (.stored ⟨kind, v⟩)).optionAs kind = some v :=
        Stored.as?_mk kind v
      rw [hvalue, Option.map_some, Field.wrap, hnullable]
      rfl

/-- What an encoder made reads back as what the decoder makes of it, unless it is the reserved
value of its kind or no value. -/
theorem reading_converted {field : Field} {pair : ConverterPair} {value : Datum F}
    (hexists : pair.nullableIntermediate = true → pair.primitive.isExistenceChecked = true)
    (hvalue : m.IsValue field (.converted pair) value) (before : Option Stored) :
    m.reading field (.converted pair)
        (m.entryAfter field (FieldKind.write (.converted pair) field.type.nullable)
          (m.handed field (.converted pair) value) before) =
      if m.writesAbsent field (.converted pair) value then none
      else some (m.kept field (.converted pair) value) := by
  rw [IsValue, Datum.Optionally] at hvalue
  rw [reading, FieldKind.write, writesAbsent, kept]
  -- What the encoder does is left open: only the kind of what it made is known.
  generalize m.handed field (.converted pair) value = written at hvalue ⊢
  cases hnullable : pair.nullableIntermediate with
  | false =>
    rw [hnullable, if_neg (by decide)] at hvalue
    obtain ⟨v, rfl⟩ := hvalue
    have hfits : (Datum.stored (F := F) ⟨pair.primitive, v⟩).as? pair.primitive = some v :=
      Stored.as?_mk _ v
    have hentry : m.entryAfter field
        (if pair.primitive.isExistenceChecked then .existence pair.primitive false
          else .scalar pair.primitive) (.stored ⟨pair.primitive, v⟩) before =
        some ⟨pair.primitive, v⟩ := by
      split <;> simp only [entryAfter, hfits]
    have habsent : (if false then (Datum.stored (F := F) ⟨pair.primitive, v⟩).isAbsent
        else (Datum.stored (F := F) ⟨pair.primitive, v⟩).isSentinel) =
        pair.primitive.isSentinel v := rfl
    rw [hentry, Primitive.presentIn_mk, habsent]
    cases pair.primitive.isSentinel v <;> rfl
  | true =>
    have hchecked := hexists hnullable
    rw [hnullable, if_pos rfl] at hvalue
    rw [if_pos hchecked, if_pos rfl, Primitive.presentIn_of_existence hchecked, entryAfter]
    rcases hvalue with rfl | ⟨x, ⟨v, rfl⟩, rfl⟩
    · rfl
    · have hvalue : (Datum.present (F := F) (.stored ⟨pair.primitive, v⟩)).optionAs
          pair.primitive = some v := Stored.as?_mk _ v
      rw [hvalue, Option.map_some, Option.bind_some, Stored.as?_mk]
      rfl

/-- What was written for a field of a kind reads back, whatever the store held before. -/
theorem reading_encode {c : Context} {declaration : String} {field : Field} {kind : FieldKind}
    (hkind : c.kindOf declaration field = .ok kind) {value : Datum F}
    (hvalue : m.IsValue field kind value)
    (hordinals : kind = .ordinal → (m.ordinals field.typeName).Sound)
    (hkeeps : ∀ t, kind = .structured → value.payload = .tree t →
      (m.structured field.typeName).Keeps t) (s : Shelf) :
    m.reading field kind
        ((m.encode field (encodeSteps field kind) value s).store.get? field.name) =
      if m.writesAbsent field kind value then none else some (m.kept field kind value) := by
  rw [get?_encode]
  cases kind with
  | ordinal => exact m.reading_ordinal (hordinals rfl) hvalue _
  | structured => exact m.reading_structured hvalue (fun t => hkeeps t rfl) _
  | primitive kind => exact m.reading_primitive hvalue _
  | converted pair =>
    -- The lookup of converters lets a value be missing only where the store tells that it is.
    obtain ⟨-, -, -, hexists⟩ := Registry.find_ok (Context.find_of_kindOf hkind)
    exact m.reading_converted hexists hvalue _

/-- Whatever a store holds, a value that is written for a planned field and then read comes back;
or the default does, when what was written stands for a missing value. -/
theorem decode_encode {c : Context} {declaration : String} {field : Field} {kind : FieldKind}
    {plan : FieldPlan} (hplan : c.planOf declaration field = .ok (kind, plan)) {value : Datum F}
    (hvalue : m.IsValue field kind value)
    (hordinals : kind = .ordinal → (m.ordinals field.typeName).Sound)
    (hkeeps : ∀ t, kind = .structured → value.payload = .tree t →
      (m.structured field.typeName).Keeps t) (default : Datum F) (s : Shelf) :
    (m.decode plan default (m.encode plan.field plan.encode value s)).1 =
      if m.writesAbsent field kind value then default else m.kept field kind value := by
  obtain ⟨hkind, rfl⟩ := Context.planOf_eq_ok.1 hplan
  have hreading := m.reading_encode hkind hvalue hordinals hkeeps s
  change (m.decode (.ofKind field kind) default
    (m.encode field (encodeSteps field kind) value s)).1 = _
  rw [decode_ofKind, hreading]
  cases m.writesAbsent field kind value <;> rfl

open Samples in
/-- A level that may be missing is written over a text and read again. -/
theorem decode_encode_level :
    let field := SampleField.declared ⟨"level", optional (plain "Level"), true, .absent⟩
    let s : Shelf := ⟨SortedMap.empty.insert "level" ⟨.text, "High"⟩, []⟩
    let written := nullableData.meaning.encode field (encodeSteps field .ordinal)
      (.present (.entry "High")) s
    nullableData.context.planOf nullableData.name field =
        .ok (.ordinal, .ofKind field .ordinal) ∧
      (nullableData.meaning.decode (.ofKind field .ordinal) .absent written).1 =
        .present (.entry "High") := by
  intro field s written
  have hplan : nullableData.context.planOf nullableData.name field =
      .ok (.ordinal, .ofKind field .ordinal) := rfl
  have hvalue : nullableData.meaning.IsValue field .ordinal (.present (.entry "High")) :=
    .inr ⟨.entry "High", ⟨"High", by decide, rfl⟩, rfl⟩
  have hordinals : (nullableData.meaning.ordinals field.typeName).Sound :=
    ⟨by decide, by decide⟩
  exact ⟨hplan, decode_encode nullableData.meaning hplan hvalue (fun _ => hordinals)
    (fun _ hkind => by cases hkind) .absent s⟩

end Meaning

end TypedPreferences
