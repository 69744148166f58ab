import Mathlib.Algebra.Group.Nat.Defs
import TypedPreferences.Store.Nullable

/-! Optional numbers and truth values come back from the wider kinds that carry them. -/

namespace TypedPreferences.Nullable

@[simp]
theorem length_lowBytes (count n : Nat) : (lowBytes count n).length = count := by
  induction count generalizing n with
  | zero => rfl
  | succ count ih => rw [lowBytes, List.length_cons, ih]

theorem ofBytes_lowBytes (count n : Nat) : ofBytes (lowBytes count n) = n % 256 ^ count := by
  induction count generalizing n with
  | zero => rw [lowBytes, ofBytes, Nat.pow_zero, Nat.mod_one]
  | succ count ih =>
    have hbyte : n.toUInt8.toNat = n % 256 := UInt8.toNat_ofNat'
    rw [lowBytes, ofBytes, ih, hbyte, Nat.pow_succ, Nat.mul_comm (256 ^ count), Nat.mod_mul]

theorem number?_lowBytes {count n : Nat} (h : n < 256 ^ count) :
    number? count (some (lowBytes count n)) = some n := by
  rw [number?, Option.bind_some, if_pos (length_lowBytes count n), ofBytes_lowBytes,
    Nat.mod_eq_of_lt h]

theorem decodeBool_encodeBool (value : Option Bool) : decodeBool (encodeBool value) = value := by
  rcases value with _ | _ | _ <;> decide

/-- The number that stands for none lies outside the carried range. -/
theorem decodeInt_encodeInt (value : Option Int32) : decodeInt (encodeInt value) = value := by
  cases value with
  | none => decide
  | some n => simp [encodeInt, decodeInt]

theorem decodeLong_encodeLong (value : Option Int64) : decodeLong (encodeLong value) = value := by
  cases value with
  | none => rfl
  | some n =>
    have h : n.toUInt64.toNat < 256 ^ 8 := n.toUInt64.toNat_lt
    rw [encodeLong, Option.map_some, decodeLong, number?_lowBytes h, Option.map_some,
      UInt64.ofNat_toNat, Int64.toInt64_toUInt64]

theorem decodeFloat_encodeFloat (value : Option Binary32) :
    decodeFloat (encodeFloat value) = value := by
  cases value with
  | none => rfl
  | some x =>
    have h : x.bits.toNat < 256 ^ 4 := x.bits.toNat_lt
    rw [encodeFloat, Option.map_some, decodeFloat, number?_lowBytes h, Option.map_some,
      UInt32.ofNat_toNat]

theorem decodeDouble_encodeDouble (value : Option Binary64) :
    decodeDouble (encodeDouble value) = value := by
  cases value with
  | none => rfl
  | some x =>
    have h : x.bits.toNat < 256 ^ 8 := x.bits.toNat_lt
    rw [encodeDouble, Option.map_some, decodeDouble, number?_lowBytes h, Option.map_some,
      UInt64.ofNat_toNat]

end TypedPreferences.Nullable
