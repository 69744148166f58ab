import TypedPreferences.Fields.Layout

/-! What stands in a store after a value is written: under the key of the field an entry that the
value and the kind of the field determine, and under every other key what stood there before. -/

namespace TypedPreferences

def Primitive.carried : (kind : Primitive) → Option kind.Value → Option Stored
  | .boolean, v => some ⟨.integer, Nullable.encodeBool v⟩
  | .integer, v => some ⟨.long, Nullable.encodeInt v⟩
  | .long, v => (Nullable.encodeLong v).map (Stored.mk .byteSequence ·)
  | .float, v => (Nullable.encodeFloat v).map (Stored.mk .byteSequence ·)
  | .double, v => (Nullable.encodeDouble v).map (Stored.mk .byteSequence ·)
  | kind, v => v.map (Stored.mk kind ·)

namespace Store

variable (s : Store) (kind : Primitive) (key : String)

theorem get?_write (value : kind.Value) (k : String) :
    (write s kind key value).get? k = if k = key then some ⟨kind, value⟩ else s.get? k :=
  SortedMap.get?_insert s key k _

theorem get?_writeOptional (value : Option kind.Value) (k : String) :
    (writeOptional s kind key value).get? k =
      if k = key then value.map (Stored.mk kind ·) else s.get? k := by
  cases value with
  | none => exact SortedMap.get?_erase s key k
  | some v => exact get?_write s kind key v k

end Store

namespace Meaning

variable {F : Type} (m : Meaning F) (field : Field)

/-- The entry that a writing step leaves under the key of its field, given the one before it. A
value that does not fit, and one that its type refuses to pack, leave the entry as it was. -/
def entryAfter (raw : Write) (value : Datum F) (before : Option Stored) : Option Stored :=
  match raw with
  | .scalar kind | .existence kind false =>
    match value.as? kind with
    | some v => some ⟨kind, v⟩
    | none => before
  | .existence kind true => (value.optionAs kind).map (Stored.mk kind ·)
  | .ordinal false =>
    match value.entry? with
    | some e => some ⟨.integer, m.ordinalOf field e⟩
    | none => before
  | .ordinal true =>
    some ⟨.integer, (value.payload.entry?.map (m.ordinalOf field)).getD noOrdinal⟩
  | .marshal _ =>
    match value.payload.tree? with
    | none => none
    | some t =>
      match (m.structured field.typeName).pack field.name t with
      | .ok bytes => some ⟨.byteSequence, bytes⟩
      | .error _ => before
  | .nullableScalar kind => kind.carried (value.optionAs kind)

theorem get?_writeNullable (kind : Primitive) (s : Store) (key : String) (value : Datum F)
    (k : String) :
    (writeNullable kind s key value).get? k =
      if k = key then kind.carried (value.optionAs kind) else s.get? k := by
  cases kind <;>
    first
    | exact Store.get?_write s _ key _ k
    | exact Store.get?_writeOptional s _ key _ k

theorem get?_encode_structured (t : Structured) (s : Store) (key : String)
    (value : Option Packed.Tree) (k : String) :
    (t.encode s key value).1.get? k =
      if k = key then
        match value with
        | none => none
        | some v =>
          match t.pack key v with
          | .ok bytes => some ⟨.byteSequence, bytes⟩
          | .error _ => s.get? k
      else s.get? k := by
  cases value with
  | none => exact Store.get?_writeOptional s .byteSequence key none k
  | some v =>
    cases hp : t.pack key v with
    | error fault => simp [Structured.encode, Structured.tryEncode, hp, Except.map]
    | ok bytes =>
      simp only [Structured.encode, Structured.tryEncode, hp, Except.map]
      exact Store.get?_writeOptional s .byteSequence key (some bytes) k

/-- A writing step changes the entry under the key of its field, and no other. -/
theorem get?_write (raw : Write) (value : Datum F) (s : Shelf) (k : String) :
    (m.write field raw value s).store.get? k =
      if k = field.name then m.entryAfter field raw value (s.store.get? k)
      else s.store.get? k := by
  cases raw with
  | scalar kind =>
    cases hv : value.as? kind with
    | none => simp [write, entryAfter, hv]
    | some v => simpa [write, entryAfter, hv] using Store.get?_write s.store kind field.name v k
  | existence kind nullable =>
    cases nullable with
    | true => exact Store.get?_writeOptional s.store kind field.name _ k
    | false =>
      cases hv : value.as? kind with
      | none => simp [write, entryAfter, hv]
      | some v => simpa [write, entryAfter, hv] using Store.get?_write s.store kind field.name v k
  | ordinal nullable =>
    cases nullable with
    | true => exact Store.get?_write s.store .integer field.name _ k
    | false =>
      cases hv : value.entry? with
      | none => simp [write, entryAfter, hv]
      | some e => simpa [write, entryAfter, hv] using Store.get?_write s.store _ field.name _ k
  | marshal nullable => exact get?_encode_structured _ s.store field.name _ k
  | nullableScalar kind => exact get?_writeNullable kind s.store field.name value k

end Meaning

def FieldKind.write (kind : FieldKind) (nullable : Bool) : Write :=
  match kind with
  | .ordinal => .ordinal nullable
  | .structured => .marshal nullable
  | .primitive kind => writePrimitive kind nullable
  | .converted pair =>
    if pair.primitive.isExistenceChecked then
      .existence pair.primitive pair.nullableIntermediate
    else .scalar pair.primitive

namespace Meaning

variable {F : Type} (m : Meaning F)

/-- What is handed to the writing step of a field: the value, or what the encoder makes of it. A
value that cannot be missing is wrapped for an encoder that takes an optional one. -/
def handed (field : Field) (kind : FieldKind) (value : Datum F) : Datum F :=
  match kind with
  | .converted pair =>
    let wraps := pair.encoder.receiver.nullable && !field.type.nullable
    m.call pair.encoder.path (if wraps then .present value else value)
  | _ => value

theorem encode_encodeSteps (field : Field) (kind : FieldKind) (value : Datum F) (s : Shelf) :
    m.encode field (encodeSteps field kind) value s =
      m.write field (kind.write field.type.nullable) (m.handed field kind value) s := by
  cases kind <;> rfl

theorem get?_encode (field : Field) (kind : FieldKind) (value : Datum F) (s : Shelf) :
    (m.encode field (encodeSteps field kind) value s).store.get? field.name =
      m.entryAfter field (kind.write field.type.nullable) (m.handed field kind value)
        (s.store.get? field.name) := by
  rw [encode_encodeSteps, get?_write, if_pos rfl]

end Meaning

/-- The kind of the entry that carries an optional value of a kind. -/
def Primitive.carrier : Primitive → Primitive
  | .boolean => .integer
  | .integer => .long
  | .long | .float | .double => .byteSequence
  | kind => kind

/-- The kind of the entries that writing a field of a kind leaves. -/
def FieldKind.carrier (kind : FieldKind) (nullable : Bool) : Primitive :=
  match kind with
  | .ordinal => .integer
  | .structured => .byteSequence
  | .primitive kind => if nullable then kind.carrier else kind
  | .converted pair => pair.primitive

theorem Stored.kind_of_map {kind : Primitive} {value : Option kind.Value} {e : Stored}
    (h : value.map (Stored.mk kind ·) = some e) : e.kind = kind := by
  obtain ⟨v, -, rfl⟩ := Option.map_eq_some_iff.1 h
  rfl

theorem Primitive.kind_of_carried {kind : Primitive} {value : Option kind.Value} {e : Stored}
    (h : kind.carried value = some e) : e.kind = kind.carrier := by
  cases kind with
  | boolean => cases h; rfl
  | integer => cases h; rfl
  | long => exact Stored.kind_of_map h
  | float => exact Stored.kind_of_map h
  | double => exact Stored.kind_of_map h
  | byteSequence => exact Stored.kind_of_map h
  | text => exact Stored.kind_of_map h
  | textSet => exact Stored.kind_of_map h

namespace Meaning

variable {F : Type} (m : Meaning F)

/-- A writing step leaves an entry of the kind that its field is stored in, if it does not leave the
entry that was there. -/
theorem kind_of_entryAfter {field : Field} {kind : FieldKind} {nullable : Bool} {value : Datum F}
    {before : Option Stored} {e : Stored}
    (h : m.entryAfter field (kind.write nullable) value before = some e) :
    before = some e ∨ e.kind = kind.carrier nullable := by
  have hplain {k : Primitive} (h : m.entryAfter field (.scalar k) value before = some e) :
      before = some e ∨ e.kind = k := by
    rw [entryAfter] at h
    split at h
    · cases h
      exact .inr rfl
    · exact .inl h
  -- By the kind of the field; a value that does not fit its step is the case that leaves the entry.
  cases kind with
  | ordinal =>
    cases nullable with
    | true => cases h; exact .inr rfl
    | false =>
      rw [FieldKind.write, entryAfter] at h
      split at h
      · cases h
        exact .inr rfl
      · exact .inl h
  | structured =>
    rw [FieldKind.write, entryAfter] at h
    split at h
    · cases h
    · split at h
      · cases h
        exact .inr rfl
      · exact .inl h
  | primitive kind =>
    rw [FieldKind.carrier]
    rw [FieldKind.write, writePrimitive] at h
    cases nullable with
    | true =>
      split at h
      · rename_i hexists
        -- A kind whose absence the store tells carries its optional values itself.
        have hkind : kind.carrier = kind := by
          cases kind <;> first | rfl | cases hexists
        rw [if_pos rfl, hkind]
        exact .inr (Stored.kind_of_map h)
      · exact .inr (Primitive.kind_of_carried h)
    | false =>
      split at h
      · exact hplain h
      · exact hplain h
  | converted pair =>
    rw [FieldKind.write] at h
    split at h
    · cases hnullable : pair.nullableIntermediate with
      | true =>
        rw [hnullable] at h
        exact .inr (Stored.kind_of_map h)
      | false =>
        rw [hnullable] at h
        exact hplain h
    · exact hplain h

end Meaning

end TypedPreferences
