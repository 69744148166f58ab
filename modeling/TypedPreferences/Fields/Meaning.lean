import TypedPreferences.Derive.Ordinals
import TypedPreferences.Fields.Datum
import TypedPreferences.Plan.Build
import TypedPreferences.Store.Nullable

/-! What the planned steps of a field do: reading takes a value from a store or falls back to the
default, writing puts one there. -/

namespace TypedPreferences

open Source

/-- What the names in a declaration stand for: the entries of an enumeration, a structured type, a
converter function; and when two foreign values are equal. -/
structure Meaning (F : Type) where
  ordinals : String → Ordinals
  structured : String → Structured
  call : NamePath → Datum F → Datum F
  foreignEquals : F → F → Bool

/-- A store in use: what it holds, and the warnings that its use gave. -/
structure Shelf where
  store : Store
  warnings : List Warning := []

def Field.typeName (f : Field) : String :=
  f.type.name?.getD ""

def noOrdinal : Int32 := -1

namespace Meaning

variable {F : Type} (m : Meaning F)

def ordinalOf (field : Field) (entry : String) : Int32 :=
  match (m.ordinals field.typeName).ordinal? entry with
  | some n => Int32.ofNat n
  | none => noOrdinal

def entryOf? (field : Field) (ordinal : Int32) : Option String :=
  (m.ordinals field.typeName).ofOrdinal? ordinal.toInt

def readOption (kind : Primitive) (s : Store) (key : String) : Datum F :=
  .ofOption (fun v => .stored ⟨kind, v⟩) (Store.read? s kind key)

/-- The optional number or truth value of a kind in a store, through the kind that carries it. -/
def readNullable (kind : Primitive) (s : Store) (key : String) : Datum F :=
  match kind with
  | .boolean =>
    .ofOption (fun v => .stored ⟨.boolean, v⟩)
      (Nullable.decodeBool (Store.read s .integer key Nullable.noBool))
  | .integer =>
    .ofOption (fun v => .stored ⟨.integer, v⟩)
      (Nullable.decodeInt (Store.read s .long key Nullable.noInt))
  | .long =>
    .ofOption (fun v => .stored ⟨.long, v⟩) (Nullable.decodeLong (Store.read? s .byteSequence key))
  | .float =>
    .ofOption (fun v => .stored ⟨.float, v⟩)
      (Nullable.decodeFloat (Store.read? s .byteSequence key))
  | .double =>
    .ofOption (fun v => .stored ⟨.double, v⟩)
      (Nullable.decodeDouble (Store.read? s .byteSequence key))
  | kind => readOption kind s key

/-- The value of a kind in a store; a truth value that is missing is false, a number that is missing
is the reserved one. -/
def readScalar (kind : Primitive) (s : Store) (key : String) : Datum F :=
  match kind with
  | .boolean => .stored ⟨.boolean, Store.read s .boolean key false⟩
  | kind =>
    match kind.sentinel? with
    -- A missing number is read as the reserved one, and so as missing.
    | some fallback => .stored ⟨kind, Store.read s kind key fallback⟩
    | none => readOption kind s key

def read (field : Field) (raw : Read) (s : Shelf) : Datum F × Shelf :=
  match raw with
  | .scalar kind => (readScalar kind s.store field.name, s)
  | .existence kind => (readOption kind s.store field.name, s)
  | .ordinal =>
    (.ofOption .entry (m.entryOf? field (Store.read s.store .integer field.name noOrdinal)), s)
  | .marshal =>
    -- Bytes that hold no value give a warning.
    let (value, warnings) := (m.structured field.typeName).decode s.store field.name
    (.ofOption .tree value, { s with warnings := s.warnings ++ warnings })
  | .nullableScalar kind => (readNullable kind s.store field.name, s)

/-- The store after an optional number or truth value is written, through the kind that carries it.
-/
def writeNullable (kind : Primitive) (s : Store) (key : String) (value : Datum F) : Store :=
  match kind with
  | .boolean => Store.write s .integer key (Nullable.encodeBool (value.optionAs .boolean))
  | .integer => Store.write s .long key (Nullable.encodeInt (value.optionAs .integer))
  | .long => Store.writeOptional s .byteSequence key (Nullable.encodeLong (value.optionAs .long))
  | .float => Store.writeOptional s .byteSequence key (Nullable.encodeFloat (value.optionAs .float))
  | .double =>
    Store.writeOptional s .byteSequence key (Nullable.encodeDouble (value.optionAs .double))
  | kind => Store.writeOptional s kind key (value.optionAs kind)

/-- The store after a value is written. A value that does not fit the step leaves it as it was. -/
def write (field : Field) (raw : Write) (value : Datum F) (s : Shelf) : Shelf :=
  let key := field.name
  match raw with
  | .scalar kind | .existence kind false =>
    match value.as? kind with
    | some v => { s with store := Store.write s.store kind key v }
    | none => s
  | .existence kind true =>
    { s with store := Store.writeOptional s.store kind key (value.optionAs kind) }
  | .ordinal false =>
    match value.entry? with
    | some e => { s with store := Store.write s.store .integer key (m.ordinalOf field e) }
    | none => s
  | .ordinal true =>
    -- For no entry the key is not removed: a number that is no ordinal is written.
    let ordinal := (value.payload.entry?.map (m.ordinalOf field)).getD noOrdinal
    { s with store := Store.write s.store .integer key ordinal }
  | .marshal _ =>
    let (store, warnings) := (m.structured field.typeName).encode s.store key value.payload.tree?
    ⟨store, s.warnings ++ warnings⟩
  | .nullableScalar kind => { s with store := writeNullable kind s.store key value }

def encode (field : Field) : List EncodeStep → Datum F → Shelf → Shelf
  | [], _, s => s
  | .convert call :: rest, value, s =>
    encode field rest (m.call call.path (if call.wrapSome then .present value else value)) s
  | .write raw :: rest, value, s => encode field rest value (m.write field raw value s)

def mayPersist (default : Datum F) : PersistGuard → Bool
  | .always => true
  | .defaultPresent => !default.isAbsent
  | .defaultNotSentinel => !default.isSentinel

/-- Runs the steps that are taken when a value is missing, and tells whether they return the
default. -/
def fallBack (plan : FieldPlan) (default : Datum F) : List AbsentStep → Shelf → Bool × Shelf
  | [], s => (false, s)
  | .persistDefault guard :: rest, s =>
    fallBack plan default rest
      (if mayPersist default guard then m.encode plan.field plan.encode default s else s)
  | .returnDefault :: _, s => (true, s)

def isMissing (field : Field) (value : Datum F) (s : Shelf) : AbsenceCheck → Bool
  | .sentinel => value.isSentinel
  | .keyMissing => !s.store.contains field.name
  | .noneValue => value.isAbsent

def found (value : Datum F) : AbsenceCheck → Datum F
  | .noneValue => value.payload
  | _ => value

def make (value : Datum F) : Product → Datum F
  | .value | .collectSet => value
  | .decoded call => m.call call.path (if call.optional then .present value else value)

def decodeFrom (plan : FieldPlan) (default : Datum F) :
    List DecodeStep → Datum F → Shelf → Datum F × Shelf
  | [], value, s => (value, s)
  | .read raw :: rest, _, s =>
    let (value, s) := m.read plan.field raw s
    decodeFrom plan default rest value s
  | .onAbsent check branch :: rest, value, s =>
    if isMissing plan.field value s check then
      -- What the branch wrote stays, also when reading goes on after it.
      let (returns, s) := m.fallBack plan default branch s
      if returns then (default, s) else decodeFrom plan default rest value s
    else decodeFrom plan default rest (found value check) s
  -- What comes after the product is not looked at.
  | .produce product wrapSome :: _, value, s =>
    let value := m.make value product
    (if wrapSome then .present value else value, s)

def decode (plan : FieldPlan) (default : Datum F) (s : Shelf) : Datum F × Shelf :=
  m.decodeFrom plan default plan.decode default s

end Meaning

end TypedPreferences
