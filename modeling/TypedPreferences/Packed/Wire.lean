import TypedPreferences.Store.Nullable

/-! Packed values: a compact binary form of nested data. A value begins with a byte that tells its
form and often its length. -/

namespace TypedPreferences.Packed

/-- A packed value as it stands in bytes. Whole numbers keep whether their form has a sign, texts
need not be well formed, and what an extension means is left open. -/
inductive Wire where
  | nil
  | bool (b : Bool)
  | unsigned (n : Nat)
  | signed (n : Int)
  | single (x : Binary32)
  | double (x : Binary64)
  | text (bytes : List UInt8)
  | binary (bytes : List UInt8)
  | array (items : List Wire)
  | map (entries : List (Wire × Wire))
  | extension (kind : Int) (bytes : List UInt8)
deriving Inhabited

abbrev Parse (α : Type) := List UInt8 → Option (α × List UInt8)

/-- A number of a given width in bytes, most significant first. -/
def number (width : Nat) : Parse Nat := fun bytes =>
  if bytes.length < width then none
  else some ((bytes.take width).foldl (fun n b => 256 * n + b.toNat) 0, bytes.drop width)

def take (count : Nat) : Parse (List UInt8) := fun bytes =>
  let taken := bytes.take count
  if taken.length < count then none else some (taken, bytes.drop count)

def signedOf (width n : Nat) : Int :=
  if n < 1 <<< (8 * width - 1) then n else (n : Int) - (1 <<< (8 * width) : Nat)

def many {α : Type} (p : Parse α) : Nat → Parse (List α)
  | 0, bytes => some ([], bytes)
  | count + 1, bytes => do
    let (a, rest) ← p bytes
    let (as, rest) ← many p count rest
    return (a :: as, rest)

def pair {α β : Type} (p : Parse α) (q : Parse β) : Parse (α × β) := fun bytes => do
  let (a, rest) ← p bytes
  let (b, rest) ← q rest
  return ((a, b), rest)

def yields {α β : Type} (p : Parse α) (f : α → β) : Parse β := fun bytes =>
  (p bytes).map fun (a, rest) => (f a, rest)

def counted {α : Type} (width : Nat) (p : Nat → Parse α) : Parse α := fun bytes => do
  let (count, rest) ← number width bytes
  p count rest

/-- What follows the first byte of a value, given the parser of the values inside it; none for forms
that are not read. -/
def body (first : UInt8) (inner : Option (Parse Wire)) : Parse Wire := fun bytes =>
  let items (count : Nat) : Parse Wire := fun bytes => do yields (many (← inner) count) .array bytes
  let entries (count : Nat) : Parse Wire := fun bytes => do
    yields (many (pair (← inner) (← inner)) count) .map bytes
  let text (count : Nat) : Parse Wire := yields (take count) .text
  let binary (count : Nat) : Parse Wire := yields (take count) .binary
  let extension (count : Nat) : Parse Wire := fun bytes => do
    let _ ← inner
    yields (pair (number 1) (take count)) (fun (k, data) => .extension (signedOf 1 k) data) bytes
  let n := first.toNat
  -- Small numbers and the counts of small maps, arrays and texts stand in the first byte.
  if n < 0x80 then some (.unsigned n, bytes)
  else if n < 0x90 then entries (n - 0x80) bytes
  else if n < 0xa0 then items (n - 0x90) bytes
  else if n < 0xc0 then text (n - 0xa0) bytes
  else if n ≥ 0xe0 then some (.signed ((n : Int) - 256), bytes)
  else
    match n with
    | 0xc0 => some (.nil, bytes)
    | 0xc2 => some (.bool false, bytes)
    | 0xc3 => some (.bool true, bytes)
    | 0xc4 => counted 1 binary bytes
    | 0xc5 => counted 2 binary bytes
    | 0xc6 => counted 4 binary bytes
    | 0xc7 => counted 1 extension bytes
    | 0xc8 => counted 2 extension bytes
    | 0xc9 => counted 4 extension bytes
    | 0xca => yields (number 4) (fun n => .single ⟨UInt32.ofNat n⟩) bytes
    | 0xcb => yields (number 8) (fun n => .double ⟨UInt64.ofNat n⟩) bytes
    | 0xcc => yields (number 1) .unsigned bytes
    | 0xcd => yields (number 2) .unsigned bytes
    | 0xce => yields (number 4) .unsigned bytes
    | 0xcf => yields (number 8) .unsigned bytes
    | 0xd0 => yields (number 1) (fun n => .signed (signedOf 1 n)) bytes
    | 0xd1 => yields (number 2) (fun n => .signed (signedOf 2 n)) bytes
    | 0xd2 => yields (number 4) (fun n => .signed (signedOf 4 n)) bytes
    | 0xd3 => yields (number 8) (fun n => .signed (signedOf 8 n)) bytes
    | 0xd4 => extension 1 bytes
    | 0xd5 => extension 2 bytes
    | 0xd6 => extension 4 bytes
    | 0xd7 => extension 8 bytes
    | 0xd8 => extension 16 bytes
    | 0xd9 => counted 1 text bytes
    | 0xda => counted 2 text bytes
    | 0xdb => counted 4 text bytes
    | 0xdc => counted 2 items bytes
    | 0xdd => counted 4 items bytes
    | 0xde => counted 2 entries bytes
    | 0xdf => counted 4 entries bytes
    | _ => none

/-- A value in which containers, of which an extension is one, stand at most `depth` deep in each
other. -/
def value : Nat → Parse Wire
  | _, [] => none
  | 0, first :: bytes => body first none bytes
  | depth + 1, first :: bytes => body first (some (value depth)) bytes

def maxDepth : Nat := 1023

/-- The value at the front of some bytes; what follows it is not looked at. -/
def Wire.ofBytes? (bytes : List UInt8) : Option Wire :=
  (value maxDepth bytes).map (·.1)

end TypedPreferences.Packed
