import TypedPreferences.Packed.Rounded
import TypedPreferences.Packed.Wire

/-! Structured values, the schemas they follow, and how they are packed: records by field name, in
order. -/

namespace TypedPreferences.Packed

inductive Tree where
  | unit
  | bool (b : Bool)
  | int (n : Int)
  | single (x : Binary32)
  | double (x : Binary64)
  | text (s : String)
  | missing
  | given (t : Tree)
  | list (items : List Tree)
  | dictionary (entries : List (String × Tree))
  | record (fields : List (String × Tree))
  | choice (name : String) (content : Option Tree)
deriving Inhabited

inductive Schema where
  | unit
  | bool
  -- Whole numbers between two bounds, both included.
  | int (least greatest : Int)
  | single
  | double
  | text
  | optional (s : Schema)
  | list (s : Schema)
  | dictionary (s : Schema)
  | tuple (parts : List Schema)
  | record (fields : List (String × Schema))
  -- One of several names, each alone or with content.
  | choice (variants : List (String × Option Schema))
deriving Inhabited

/-- The bytes of a number, most significant first. -/
def highBytes (width n : Nat) : List UInt8 :=
  (Nullable.lowBytes width n).reverse

/-- A whole number in its shortest form; one that is not negative has no sign. -/
def packInt (n : Int) : List UInt8 :=
  if 0 ≤ n then
    let n := n.toNat
    if n < 0x80 then [n.toUInt8]
    else if n < 0x100 then 0xcc :: highBytes 1 n
    else if n < 0x10000 then 0xcd :: highBytes 2 n
    else if n < UInt32.size then 0xce :: highBytes 4 n
    else 0xcf :: highBytes 8 n
  -- Below zero in two's complement, from one byte without a mark to eight.
  else if -32 ≤ n then [(256 + n).toNat.toUInt8]
  else if -0x80 ≤ n then 0xd0 :: highBytes 1 (0x100 + n).toNat
  else if -0x8000 ≤ n then 0xd1 :: highBytes 2 (0x10000 + n).toNat
  else if -0x80000000 ≤ n then 0xd2 :: highBytes 4 (UInt32.size + n).toNat
  else 0xd3 :: highBytes 8 (UInt64.size + n).toNat

def textHead (n : Nat) : List UInt8 :=
  if n < 32 then [(0xa0 + n).toUInt8]
  else if n < 0x100 then 0xd9 :: highBytes 1 n
  else if n < 0x10000 then 0xda :: highBytes 2 n
  else 0xdb :: highBytes 4 n

def containerHead (short two four : UInt8) (n : Nat) : List UInt8 :=
  if n < 16 then [short + n.toUInt8]
  else if n < 0x10000 then two :: highBytes 2 n
  else four :: highBytes 4 n

def arrayHead (n : Nat) : List UInt8 := containerHead 0x90 0xdc 0xdd n

def mapHead (n : Nat) : List UInt8 := containerHead 0x80 0xde 0xdf n

def packText (s : String) : List UInt8 :=
  textHead s.utf8ByteSize ++ s.toUTF8.toList

mutual

def Tree.pack : Tree → List UInt8
  | .unit => [0xc0]
  | .bool b => [if b then 0xc3 else 0xc2]
  | .int n => packInt n
  | .single x => 0xca :: highBytes 4 x.bits.toNat
  | .double x => 0xcb :: highBytes 8 x.bits.toNat
  | .text s => packText s
  -- An optional value is packed as what it holds, or as nil.
  | .missing => [0xc0]
  | .given t => t.pack
  | .list items => arrayHead items.length ++ packItems items
  | .dictionary entries => mapHead entries.length ++ packEntries entries
  | .record fields => mapHead fields.length ++ packEntries fields
  | .choice name none => packText name
  | .choice name (some content) => mapHead 1 ++ packText name ++ content.pack

def packItems : List Tree → List UInt8
  | [] => []
  | t :: rest => t.pack ++ packItems rest

def packEntries : List (String × Tree) → List UInt8
  | [] => []
  | (name, t) :: rest => packText name ++ t.pack ++ packEntries rest

end

def textOf? (bytes : List UInt8) : Option String :=
  String.fromUTF8? (ByteArray.mk bytes.toArray)

def Wire.text? : Wire → Option String
  | .text bytes => textOf? bytes
  | .binary bytes => textOf? bytes
  | _ => none

def Wire.int? : Wire → Option Int
  | .unsigned n => some n
  | .signed n => some n
  | _ => none

/-- The number of 64 bits that a value is; other numbers are converted to it. -/
def Wire.double? : Wire → Option Binary64
  | .double x => some x
  | .single x => some (widen x)
  | .unsigned n => some (Packed.double n)
  | .signed n => some (Packed.double n)
  | _ => none

/-- The number of 32 bits that a value is; other numbers are converted to it. -/
def Wire.single? : Wire → Option Binary32
  | .single x => some x
  | .double x => some (narrow x)
  | .unsigned n => some (Packed.single n)
  | .signed n => some (Packed.single n)
  | _ => none

def Wire.items? : Wire → Option (List Wire)
  | .array items => some items
  | .binary bytes => some (bytes.map fun b => .unsigned b.toNat)
  | _ => none

/-- The elements of an array of a stated length; of bytes, those that the length asks for. -/
def Wire.parts? (count : Nat) : Wire → Option (List Wire)
  | .array items => some items
  | .binary bytes => Wire.items? (.binary (bytes.take count))
  | _ => none

/-- The keys by which the fields of a record are named. -/
inductive FieldKey where
  | known (name : String)
  | unknown
deriving DecidableEq

/-- The field that a key names: by its name, as text or bytes, or by its position, as a number
without a sign. -/
def fieldKey? (names : List String) : Wire → Option FieldKey
  | .text bytes | .binary bytes =>
    match textOf? bytes with
    | some s => if names.contains s then some (.known s) else some .unknown
    | none => some .unknown
  | .unsigned n =>
    match names[n]? with
    | some s => some (.known s)
    | none => some .unknown
  | _ => none

/-- The known fields of a record, by name; a field that stands twice is an error. -/
def knownFields (names : List String) : List (Wire × Wire) → Option (List (String × Wire))
  | [] => some []
  | (key, w) :: rest => do
    -- The later entries come first, so a repeated name is noticed at its first entry.
    let found ← knownFields names rest
    match ← fieldKey? names key with
    | .unknown => return found
    | .known name => if found.any (·.1 == name) then none else return (name, w) :: found

/-- A dictionary in the order of its keys; of two entries with one key the later counts. -/
def dictionaryOf (entries : List (String × Tree)) : Tree :=
  .dictionary (SortedMap.ofList entries).entries

/-- The name of a variant and its content: a text or a number alone, or a map with one entry. -/
def variant? (names : List String) : Wire → Option (String × Option Wire)
  | .map [(key, content)] =>
    match fieldKey? names key with
    | some (.known name) => some (name, some content)
    | _ => none
  | .map _ => none
  | key =>
    match fieldKey? names key with
    | some (.known name) => some (name, none)
    | _ => none

mutual

def Schema.read? : Schema → Wire → Option Tree
  | .unit, w => match w with
    | .nil => some .unit
    | _ => none
  | .bool, w => match w with
    | .bool b => some (.bool b)
    | _ => none
  | .int least greatest, w =>
    w.int?.bind fun n => if least ≤ n ∧ n ≤ greatest then some (.int n) else none
  | .single, w => w.single?.map .single
  | .double, w => w.double?.map .double
  | .text, w => w.text?.map .text
  | .optional s, w => match w with
    | .nil => some .missing
    | w => (s.read? w).map .given
  | .list s, w => do return .list (← (← w.items?).mapM fun w => s.read? w)
  | .dictionary s, w => match w with
    | .map entries => do
      return dictionaryOf (← entries.mapM fun (key, w) => do return (← key.text?, ← s.read? w))
    | _ => none
  | .tuple parts, w => do return .list (← readParts parts (← w.parts? parts.length))
  | .record fields, w => match w with
    | .map entries => do
      -- Fields by their names, in any order; in an array they stand by their places.
      let found ← knownFields (fields.map (·.1)) entries
      return .record (← readFields fields found)
    | w => do return .record (← readOrdered fields (← w.parts? fields.length))
  | .choice variants, w => do
    let (name, content) ← variant? (variants.map (·.1)) w
    readVariant variants name content

def readParts : List Schema → List Wire → Option (List Tree)
  | [], [] => some []
  | s :: ss, w :: ws => do return (← s.read? w) :: (← readParts ss ws)
  | _, _ => none

/-- The fields of a record by name. A missing field is an error, unless it is optional. -/
def readFields : List (String × Schema) → List (String × Wire) → Option (List (String × Tree))
  | [], _ => some []
  | (name, s) :: rest, found => do
    let t ←
      match found.lookup name with
      | some w => s.read? w
      | none =>
        -- Nothing else has a value for a field that is not there.
        match s with
        | .optional _ => some .missing
        | _ => none
    return (name, t) :: (← readFields rest found)

def readOrdered : List (String × Schema) → List Wire → Option (List (String × Tree))
  | [], [] => some []
  | (name, s) :: rest, w :: ws => do return (name, ← s.read? w) :: (← readOrdered rest ws)
  | _, _ => none

/-- A variant with its content. One without content may stand in a map with nil. -/
def readVariant : List (String × Option Schema) → String → Option Wire → Option Tree
  | [], _, _ => none
  | (name, s) :: rest, wanted, content =>
    if name == wanted then
      match s, content with
      | none, none => some (.choice name none)
      | none, some .nil => some (.choice name none)
      | some s, some w => (s.read? w).map fun t => .choice name (some t)
      | _, _ => none
    else readVariant rest wanted content

end

end TypedPreferences.Packed
