import TypedPreferences.Proofs.Derive.Numbering
import TypedPreferences.Proofs.Fields.Written
import TypedPreferences.Proofs.Plan.Accepted

/-! What a planned field is read as: the entry under its key determines a value, or counts as
missing. A missing value is the default, which is written when the field asks for it and nothing
withholds it. One statement says this for all kinds of fields, so that no other proof runs the steps
of a plan. -/

namespace TypedPreferences

namespace Primitive

/-- The value that an entry holds for a field that is stored as it is. A truth value has no spare
one: its entry counts as there whatever it holds, and one of another kind is read as false. -/
def presentIn : (kind : Primitive) → Option Stored → Option kind.Value
  | .boolean, entry => entry.map fun s => (s.as? .boolean).getD false
  | kind, entry => (entry.bind (·.as? kind)).filter fun v => !kind.isSentinel v

theorem presentIn_of_ne {kind : Primitive} (h : kind ≠ .boolean) (entry : Option Stored) :
    kind.presentIn entry = (entry.bind (·.as? kind)).filter fun v => !kind.isSentinel v := by
  rw [presentIn]
  exact h

theorem presentIn_of_existence {kind : Primitive} (h : kind.isExistenceChecked = true)
    (entry : Option Stored) : kind.presentIn entry = entry.bind (·.as? kind) := by
  have hne : kind ≠ .boolean := by
    rintro rfl
    cases h
  have hkept (v : kind.Value) : (!kind.isSentinel v) = true := by
    cases kind <;> first | rfl | cases h
  rw [presentIn_of_ne hne]
  cases entry.bind (·.as? kind) with
  | none => rfl
  | some v => rw [Option.filter, if_pos (hkept v)]

def optionalIn : (kind : Primitive) → Option Stored → Option kind.Value
  | .boolean, entry => (entry.bind (·.as? .integer)).bind Nullable.decodeBool
  | .integer, entry => (entry.bind (·.as? .long)).bind Nullable.decodeInt
  | .long, entry => Nullable.decodeLong (entry.bind (·.as? .byteSequence))
  | .float, entry => Nullable.decodeFloat (entry.bind (·.as? .byteSequence))
  | .double, entry => Nullable.decodeDouble (entry.bind (·.as? .byteSequence))
  | kind, entry => entry.bind (·.as? kind)

end Primitive

def Field.wrap {F : Type} (field : Field) (d : Datum F) : Datum F :=
  if field.type.nullable then .present d else d

/-- Whether the default of a field is never written: a number that is the reserved one of its kind,
and a missing entry of an enumeration or structured value. -/
def FieldKind.withholds {F : Type} (kind : FieldKind) (nullable : Bool) (default : Datum F) :
    Bool :=
  match kind with
  | .ordinal | .structured => nullable && default.isAbsent
  | .primitive kind => !nullable && kind.usesSentinel && default.isSentinel
  | .converted _ => false

namespace Meaning

variable {F : Type} (m : Meaning F) (field : Field)

/-- What the decoder of a pair makes of a stored value, in the form in which the decoder takes it
and in the form of the field. -/
def decoded (pair : ConverterPair) (raw : Datum F) : Datum F :=
  let argument := if pair.decoder.receiver.nullable then .present raw else raw
  let value := m.call pair.decoder.path argument
  if field.type.nullable && !pair.decoder.output.nullable then .present value else value

/-- What an entry reads as for a field of a kind; none when it counts as missing. -/
def reading (kind : FieldKind) (entry : Option Stored) : Option (Datum F) :=
  match kind with
  | .ordinal =>
    ((entry.bind (·.as? .integer)).bind (m.entryOf? field)).map fun e => field.wrap (.entry e)
  | .structured =>
    ((entry.bind (·.as? .byteSequence)).bind (m.structured field.typeName).unpack?).map
      fun t => field.wrap (.tree t)
  | .primitive kind =>
    (if field.type.nullable then kind.optionalIn entry else kind.presentIn entry).map
      fun v => field.wrap (.stored ⟨kind, v⟩)
  | .converted pair =>
    (pair.primitive.presentIn entry).map fun v => m.decoded field pair (.stored ⟨_, v⟩)

/-- The warnings that reading a field gives: bytes that hold no structured value are dropped. -/
def notices (kind : FieldKind) (entry : Option Stored) : List Warning :=
  match kind with
  | .structured =>
    match entry.bind (·.as? .byteSequence) with
    | some bytes =>
      if ((m.structured field.typeName).unpack? bytes).isNone then [.discarded field.name] else []
    | none => []
  | _ => []

def noted (kind : FieldKind) (s : Shelf) : Shelf :=
  { s with warnings := s.warnings ++ m.notices field kind (s.store.get? field.name) }

@[simp]
theorem noted_store (kind : FieldKind) (s : Shelf) : (m.noted field kind s).store = s.store := rfl

end Meaning

namespace Meaning

variable {F : Type} (m : Meaning F) (plan : FieldPlan) (default : Datum F)

/-- What reading a field comes to: the value that was found, or the default, which is written first
or not. -/
def settle (writes : Bool) (value? : Option (Datum F)) (s : Shelf) : Datum F × Shelf :=
  match value? with
  | some value => (value, s)
  | none => (default, if writes then m.encode plan.field plan.encode default s else s)

def produced (product : Product) (wraps : Bool) (value : Datum F) : Datum F :=
  if wraps then .present (m.make value product) else m.make value product

variable (persist : Bool) (guard : PersistGuard)

theorem fallBack_absentBranch (s : Shelf) :
    m.fallBack plan default (absentBranch persist guard) s =
      (true, if persist && mayPersist default guard then m.encode plan.field plan.encode default s
        else s) := by
  cases persist <;> simp [absentBranch, fallBack]

theorem decodeFrom_onAbsent (check : AbsenceCheck) (rest : List DecodeStep) (value : Datum F)
    (s : Shelf) :
    m.decodeFrom plan default (.onAbsent check (absentBranch persist guard) :: rest) value s =
      if isMissing plan.field value s check then
        m.settle plan default (persist && mayPersist default guard) none s
      else m.decodeFrom plan default rest (found value check) s := by
  simp only [decodeFrom, fallBack_absentBranch, if_pos, settle]

theorem decodeFrom_optional {α : Type} {raw : Read} {s s' : Shelf} {f : α → Datum F}
    {o : Option α} (hread : m.read plan.field raw s = (.ofOption f o, s')) (product : Product)
    (wraps : Bool) (value : Datum F) :
    m.decodeFrom plan default
        [.read raw, .onAbsent .noneValue (absentBranch persist guard), .produce product wraps]
        value s =
      m.settle plan default (persist && mayPersist default guard)
        (o.map fun a => m.produced product wraps (f a)) s' := by
  rw [decodeFrom, hread]
  dsimp only
  rw [decodeFrom_onAbsent]
  cases o <;> rfl

/-- Reading a number whose absence is told by the reserved one of its kind. -/
theorem decodeFrom_sentinel {kind : Primitive} {reserved : kind.Value}
    (hreserved : kind.isSentinel reserved = true) {s : Shelf}
    (hread : readScalar (F := F) kind s.store plan.field.name =
      .stored ⟨kind, Store.read s.store kind plan.field.name reserved⟩)
    (product : Product) (wraps : Bool) (value : Datum F) :
    m.decodeFrom plan default
        [.read (.scalar kind), .onAbsent .sentinel (absentBranch persist guard),
          .produce product wraps] value s =
      m.settle plan default (persist && mayPersist default guard)
        (((Store.read? s.store kind plan.field.name).filter fun v => !kind.isSentinel v).map
          fun v => m.produced product wraps (.stored ⟨kind, v⟩)) s := by
  rw [decodeFrom, read]
  dsimp only
  rw [decodeFrom_onAbsent, hread]
  rcases hentry : Store.read? s.store kind plan.field.name with _ | v
  -- No number of the kind: the fallback is read, which is the reserved one.
  · simp [isMissing, Datum.isSentinel, Datum.stored?, Store.read, hentry, hreserved, settle]
  -- A number of the kind counts unless somebody stored the reserved one.
  · cases hv : kind.isSentinel v with
    | true =>
      simp [isMissing, Datum.isSentinel, Datum.stored?, Store.read, hentry, hv, settle,
        Option.filter]
    | false =>
      simp [isMissing, Datum.isSentinel, Datum.stored?, Store.read, hentry, hv, settle,
        Option.filter, decodeFrom, found, produced]

theorem decodeFrom_readPresent (kind : Primitive) (product : Product) (wraps : Bool)
    (value : Datum F) (s : Shelf) :
    m.decodeFrom plan default
        (readPresent kind (absentBranch persist guard) ++ [.produce product wraps]) value s =
      m.settle plan default (persist && mayPersist default guard)
        ((kind.presentIn (s.store.get? plan.field.name)).map fun v =>
          m.produced product wraps (.stored ⟨kind, v⟩)) s := by
  -- Three ways of telling absence: the store does, or the reserved number does, or the key.
  by_cases hexists : kind.isExistenceChecked = true
  · rw [readPresent, if_pos hexists, Primitive.presentIn_of_existence hexists]
    exact m.decodeFrom_optional plan default persist guard rfl product wraps value
  · cases kind with
    | integer => exact m.decodeFrom_sentinel plan default persist guard rfl rfl product wraps value
    | long => exact m.decodeFrom_sentinel plan default persist guard rfl rfl product wraps value
    | float => exact m.decodeFrom_sentinel plan default persist guard rfl rfl product wraps value
    | double => exact m.decodeFrom_sentinel plan default persist guard rfl rfl product wraps value
    | boolean =>
      -- The key is looked up before the value is read, so the check sees no value yet.
      rw [readPresent, if_neg hexists, if_neg (by decide)]
      dsimp only [List.cons_append, List.nil_append]
      rw [decodeFrom_onAbsent]
      cases hentry : s.store.get? plan.field.name with
      | none => simp [isMissing, SortedMap.contains, hentry, settle, Primitive.presentIn]
      | some e =>
        simp [isMissing, SortedMap.contains, hentry, settle, Primitive.presentIn, decodeFrom,
          read, readScalar, Store.read, Store.read?, produced]
    | _ => exact absurd rfl hexists

theorem entryOf?_noOrdinal (field : Field) : m.entryOf? field noOrdinal = none := by
  rw [entryOf?, Ordinals.ofOrdinal?_eq, if_pos (by decide)]

/-- A missing carrier carries no value: what is read in its place stands for none. -/
theorem readNullable_eq (kind : Primitive) (s : Store) (key : String) :
    readNullable (F := F) kind s key =
      .ofOption (fun v => .stored ⟨kind, v⟩) (kind.optionalIn (s.get? key)) := by
  have hbool (o : Option Int32) :
      Nullable.decodeBool (o.getD Nullable.noBool) = o.bind Nullable.decodeBool := by
    cases o <;> rfl
  have hint (o : Option Int64) :
      Nullable.decodeInt (o.getD Nullable.noInt) = o.bind Nullable.decodeInt := by
    cases o with
    | none => decide
    | some n => rfl
  cases kind with
  | boolean => exact congrArg (Datum.ofOption fun v => .stored ⟨.boolean, v⟩) (hbool _)
  | integer => exact congrArg (Datum.ofOption fun v => .stored ⟨.integer, v⟩) (hint _)
  | _ => rfl

/-- A structured value is read from the bytes under the key; the warning about bytes that hold none
is noted. -/
theorem read_marshal (field : Field) (s : Shelf) :
    m.read field .marshal s =
      (.ofOption .tree (((s.store.get? field.name).bind (·.as? .byteSequence)).bind
        (m.structured field.typeName).unpack?), m.noted field .structured s) := by
  have hdecode (t : Structured) :
      t.decode s.store field.name =
        (((s.store.get? field.name).bind (·.as? .byteSequence)).bind t.unpack?,
          match (s.store.get? field.name).bind (·.as? .byteSequence) with
          | some bytes => if (t.unpack? bytes).isNone then [.discarded field.name] else []
          | none => []) := by
    rw [Structured.decode, Structured.tryDecode, Store.read?]
    cases (s.store.get? field.name).bind (·.as? .byteSequence) with
    | none => rfl
    | some bytes =>
      change _ = (t.unpack? bytes, _)
      cases hvalue : t.unpack? bytes <;> simp only [hvalue] <;> rfl
  rw [read, hdecode]
  rfl

theorem read_ordinal (field : Field) (s : Shelf) :
    m.read field .ordinal s =
      (.ofOption .entry (((s.store.get? field.name).bind (·.as? .integer)).bind
        (m.entryOf? field)), s) := by
  have hnone (o : Option Int32) :
      m.entryOf? field (o.getD noOrdinal) = o.bind (m.entryOf? field) := by
    cases o with
    | none => exact m.entryOf?_noOrdinal field
    | some n => rfl
  exact congrArg (fun e => (Datum.ofOption .entry e, s)) (hnone _)

theorem mayPersist_optional (nullable : Bool) :
    mayPersist default (if nullable then .defaultPresent else .always) =
      !(nullable && default.isAbsent) := by
  cases nullable <;> rfl

theorem mayPersist_primitive (kind : Primitive) :
    mayPersist default (if kind.usesSentinel then .defaultNotSentinel else .always) =
      !(kind.usesSentinel && default.isSentinel) := by
  cases kind.usesSentinel <;> rfl

theorem produced_primitive (field : Field) (kind : Primitive) (value : Datum F) :
    m.produced (if kind = .textSet then .collectSet else .value) field.type.nullable value =
      field.wrap value := by
  split <;> rfl

/-- A kind whose absence the store tells reads alike for plain and for optional fields. -/
theorem reading_primitive_of_existence {field : Field} {kind : Primitive}
    (h : kind.isExistenceChecked = true ∨ field.type.nullable = false) (entry : Option Stored) :
    m.reading field (.primitive kind) entry =
      (kind.presentIn entry).map fun v => field.wrap (.stored ⟨kind, v⟩) := by
  have hoptional (hexists : kind.isExistenceChecked = true) :
      kind.optionalIn entry = kind.presentIn entry := by
    rw [Primitive.presentIn_of_existence hexists]
    cases kind <;> first | rfl | cases hexists
  rcases h with hexists | hplain
  · rw [reading, hoptional hexists, ite_self]
  · rw [reading, hplain, if_neg (by decide)]

theorem decode_primitive (field : Field) (kind : Primitive) (s : Shelf) :
    m.decode (.ofKind field (.primitive kind)) default s =
      m.settle (.ofKind field (.primitive kind)) default
        (field.persistDefault &&
          !FieldKind.withholds (.primitive kind) field.type.nullable default)
        (m.reading field (.primitive kind) (s.store.get? field.name)) s := by
  change m.decodeFrom _ default (decodePrimitive kind field.persistDefault field.type.nullable)
    default s = _
  -- Optional values of the kinds whose absence the store tells are read as plain ones are.
  by_cases h : (kind.isExistenceChecked || !field.type.nullable) = true
  · have hwithholds : (kind.usesSentinel && default.isSentinel) =
        FieldKind.withholds (.primitive kind) field.type.nullable default := by
      cases hn : field.type.nullable with
      | false => rfl
      | true =>
        rw [hn] at h
        cases kind <;> first | rfl | cases h
    rw [decodePrimitive, if_pos h]
    refine (m.decodeFrom_readPresent _ default _ _ kind _ _ default s).trans ?_
    rw [mayPersist_primitive, hwithholds, m.reading_primitive_of_existence (by simpa using h)]
    simp only [produced_primitive]
    rfl
  · have hnullable : field.type.nullable = true := by
      cases hn : field.type.nullable with
      | true => rfl
      | false => simp [hn] at h
    have hread : m.read field (.nullableScalar kind) s =
        (.ofOption (fun v => .stored ⟨kind, v⟩) (kind.optionalIn (s.store.get? field.name)), s) :=
      congrArg (·, s) (readNullable_eq kind s.store field.name)
    rw [decodePrimitive, if_neg h]
    refine (m.decodeFrom_optional (.ofKind field (.primitive kind)) default _ .always hread _ _
      default).trans ?_
    simp only [produced_primitive]
    rw [reading, FieldKind.withholds, hnullable]
    rfl

/-- Reading a field gives what its entry reads as, and changes nothing. When the entry counts as
missing it gives the default, which is written if the field asks for it and nothing withholds it. -/
theorem decode_ofKind (field : Field) (kind : FieldKind) (s : Shelf) :
    m.decode (.ofKind field kind) default s =
      m.settle (.ofKind field kind) default
        (field.persistDefault && !kind.withholds field.type.nullable default)
        (m.reading field kind (s.store.get? field.name)) (m.noted field kind s) := by
  -- Only structured values give warnings.
  have hnoted (kind : FieldKind) (h : ∀ entry, m.notices field kind entry = []) :
      m.noted field kind s = s := by
    rw [noted, h, List.append_nil]
  cases kind with
  | ordinal =>
    rw [hnoted _ fun _ => rfl]
    refine (m.decodeFrom_optional (.ofKind field .ordinal) default _ _
      (m.read_ordinal field s) .value _ default).trans ?_
    rw [mayPersist_optional]
    rfl
  | structured =>
    refine (m.decodeFrom_optional (.ofKind field .structured) default _ _
      (m.read_marshal field s) .value _ default).trans ?_
    rw [mayPersist_optional]
    rfl
  | primitive kind =>
    rw [hnoted _ fun _ => rfl]
    exact m.decode_primitive default field kind s
  | converted pair =>
    rw [hnoted _ fun _ => rfl]
    refine (m.decodeFrom_readPresent (.ofKind field (.converted pair)) default _ .always
      pair.primitive _ _ default s).trans ?_
    rfl

end Meaning

/-- Whether a field of a kind is stored as a truth value, whose absence the key alone tells. -/
def FieldKind.storesTruth (kind : FieldKind) (nullable : Bool) : Bool :=
  kind.carrier nullable = .boolean

/-- An entry of a kind other than the one asked for counts as missing, unless a truth value is asked
for. -/
theorem Primitive.presentIn_of_kind_ne {kind : Primitive} {e : Stored} (h : e.kind ≠ kind) :
    kind.presentIn (some e) =
      if kind = .boolean then kind.presentIn (some ⟨.boolean, false⟩) else none := by
  have hnone : e.as? kind = none := Stored.as?_of_ne h
  by_cases hboolean : kind = .boolean
  · subst hboolean
    rw [if_pos rfl, presentIn, Option.map_some, hnone]
    rfl
  · rw [if_neg hboolean, presentIn_of_ne hboolean, Option.bind_some, hnone]
    rfl

theorem Primitive.optionalIn_of_kind_ne {kind : Primitive} {e : Stored}
    (h : e.kind ≠ kind.carrier) : kind.optionalIn (some e) = none := by
  have hnone : (some e).bind (·.as? kind.carrier) = none := Stored.as?_of_ne h
  cases kind with
  | boolean => exact congrArg (·.bind Nullable.decodeBool) hnone
  | integer => exact congrArg (·.bind Nullable.decodeInt) hnone
  | long => exact congrArg Nullable.decodeLong hnone
  | float => exact congrArg Nullable.decodeFloat hnone
  | double => exact congrArg Nullable.decodeDouble hnone
  | _ => exact hnone

namespace Meaning

variable {F : Type} (m : Meaning F) (field : Field)

theorem reading_none (kind : FieldKind) : m.reading field kind none = none := by
  cases kind with
  | ordinal => rfl
  | structured => rfl
  | primitive kind =>
    rw [reading]
    cases field.type.nullable <;> cases kind <;> rfl
  | converted pair =>
    rw [reading]
    cases pair.primitive <;> rfl

/-- An entry of a kind that the field is not stored in reads as no value; where a truth value is
stored it reads as false. -/
theorem reading_of_kind_ne {kind : FieldKind} {e : Stored}
    (h : e.kind ≠ kind.carrier field.type.nullable) :
    m.reading field kind (some e) =
      if kind.storesTruth field.type.nullable then m.reading field kind (some ⟨.boolean, false⟩)
      else none := by
  cases kind with
  | ordinal =>
    have hnone : e.as? .integer = none := Stored.as?_of_ne h
    rw [reading, Option.bind_some, hnone]
    rfl
  | structured =>
    have hnone : e.as? .byteSequence = none := Stored.as?_of_ne h
    rw [reading, Option.bind_some, hnone]
    rfl
  | primitive kind =>
    rw [FieldKind.carrier] at h
    rw [FieldKind.storesTruth, FieldKind.carrier, reading, reading]
    cases hnullable : field.type.nullable with
    | true =>
      rw [hnullable, if_pos rfl] at h
      -- No optional value is carried by a truth value.
      have hcarrier : kind.carrier ≠ .boolean := by cases kind <;> decide
      simp only [if_true, Primitive.optionalIn_of_kind_ne h, hcarrier, decide_false,
        Bool.false_eq_true, if_false, Option.map_none]
    | false =>
      rw [hnullable, if_neg Bool.false_ne_true] at h
      simp only [Bool.false_eq_true, if_false, Primitive.presentIn_of_kind_ne h, decide_eq_true_eq]
      split <;> rfl
  | converted pair =>
    rw [FieldKind.carrier] at h
    rw [FieldKind.storesTruth, FieldKind.carrier, reading, reading,
      Primitive.presentIn_of_kind_ne h]
    simp only [decide_eq_true_eq]
    split <;> rfl

end Meaning

end TypedPreferences
