import TypedPreferences.Store.Stored

/-! Optional numbers and truth values, carried by wider kinds: a truth value by a whole number, a
whole number by a longer one, the other numbers by their bytes, least significant first. -/

namespace TypedPreferences.Nullable

def noBool : Int32 := -1

def noInt : Int64 := Int64.maxValue

def decodeBool (raw : Int32) : Option Bool :=
  if raw == 0 then some false else if raw == 1 then some true else none

def encodeBool : Option Bool → Int32
  | some true => 1
  | some false => 0
  | none => noBool

def decodeInt (raw : Int64) : Option Int32 :=
  if raw.toInt32.toInt64 == raw then some raw.toInt32 else none

def encodeInt : Option Int32 → Int64
  | some n => n.toInt64
  | none => noInt

/-- The lowest bytes of a number, least significant first. -/
def lowBytes : Nat → Nat → List UInt8
  | 0, _ => []
  | count + 1, n => n.toUInt8 :: lowBytes count (n / 256)

/-- The number that bytes make, least significant first. -/
def ofBytes : List UInt8 → Nat
  | [] => 0
  | b :: rest => b.toNat + 256 * ofBytes rest

/-- The number that exactly `width` bytes make. -/
def number? (width : Nat) (raw : Option (List UInt8)) : Option Nat :=
  raw.bind fun bytes => if bytes.length = width then some (ofBytes bytes) else none

def decodeLong (raw : Option (List UInt8)) : Option Int64 :=
  (number? 8 raw).map fun n => (UInt64.ofNat n).toInt64

def encodeLong (value : Option Int64) : Option (List UInt8) :=
  value.map fun n => lowBytes 8 n.toUInt64.toNat

def decodeFloat (raw : Option (List UInt8)) : Option Binary32 :=
  (number? 4 raw).map fun n => ⟨UInt32.ofNat n⟩

def encodeFloat (value : Option Binary32) : Option (List UInt8) :=
  value.map fun x => lowBytes 4 x.bits.toNat

def decodeDouble (raw : Option (List UInt8)) : Option Binary64 :=
  (number? 8 raw).map fun n => ⟨UInt64.ofNat n⟩

def encodeDouble (value : Option Binary64) : Option (List UInt8) :=
  value.map fun x => lowBytes 8 x.bits.toNat

end TypedPreferences.Nullable
