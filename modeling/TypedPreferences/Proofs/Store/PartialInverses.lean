import TypedPreferences.Proofs.Store.Carriers

/-! The codecs of optional numbers and truth values undo each other in both directions: besides the
values that come back from what carries them, whatever is read as a value is carried as it stood.
So each present value has one carrier, and every carrier apart from these is read as no value. -/

namespace TypedPreferences.Nullable

section Bytes

theorem ofBytes_lt (bytes : List UInt8) : ofBytes bytes < 256 ^ bytes.length := by
  induction bytes with
  | nil => decide
  | cons b rest ih =>
    have hbyte : b.toNat < 256 := b.toNat_lt
    rw [ofBytes, List.length_cons, Nat.pow_succ]
    omega

/-- Bytes come back from the number that they make, by induction on the bytes: the first is the
remainder by 256, and the others make the quotient. -/
theorem lowBytes_ofBytes (bytes : List UInt8) : lowBytes bytes.length (ofBytes bytes) = bytes := by
  induction bytes with
  | nil => rfl
  | cons b rest ih =>
    have hbyte : b.toNat < 256 := b.toNat_lt
    have hfirst : (b.toNat + 256 * ofBytes rest).toUInt8 = b := by
      apply UInt8.toNat_inj.1
      have htoNat : (b.toNat + 256 * ofBytes rest).toUInt8.toNat =
          (b.toNat + 256 * ofBytes rest) % 256 := UInt8.toNat_ofNat'
      omega
    have hothers : (b.toNat + 256 * ofBytes rest) / 256 = ofBytes rest := by omega
    rw [List.length_cons, ofBytes, lowBytes, hfirst, hothers, ih]

/-- Raw bytes of a stated width. -/
def HasWidth (width : Nat) (raw : Option (List UInt8)) : Prop :=
  ∃ bytes, raw = some bytes ∧ bytes.length = width

theorem number?_eq_some_iff {width n : Nat} {raw : Option (List UInt8)} :
    number? width raw = some n ↔ n < 256 ^ width ∧ raw = some (lowBytes width n) := by
  refine ⟨fun h => ?_, fun ⟨hlt, hraw⟩ => hraw ▸ number?_lowBytes hlt⟩
  obtain ⟨bytes, rfl, hnumber⟩ := Option.bind_eq_some_iff.1 h
  split at hnumber
  · rename_i hwidth
    subst hwidth
    obtain rfl := Option.some.inj hnumber
    exact ⟨ofBytes_lt bytes, congrArg some (lowBytes_ofBytes bytes).symm⟩
  · cases hnumber

theorem exists_number?_iff (width : Nat) (raw : Option (List UInt8)) :
    (∃ n, number? width raw = some n) ↔ HasWidth width raw := by
  constructor
  · rintro ⟨n, h⟩
    obtain ⟨-, hraw⟩ := number?_eq_some_iff.1 h
    exact ⟨_, hraw, length_lowBytes width n⟩
  · rintro ⟨bytes, rfl, hwidth⟩
    exact ⟨ofBytes bytes, if_pos hwidth⟩

end Bytes

/-- A codec of optional values by raw ones, `present` of which stand for a value that is there: the
two directions undo each other, so these are the codes of the present values, one for each, and any
other raw value stands for none. -/
structure Exact {α ρ : Type} (encode : Option α → ρ) (decode : ρ → Option α)
    (present : ρ → Prop) : Prop where
  decode_encode (value : Option α) : decode (encode value) = value
  encode_decode (raw : ρ) (v : α) : decode raw = some v → encode (some v) = raw
  decode_eq_none_iff (raw : ρ) : decode raw = none ↔ ¬present raw
  present_iff (raw : ρ) : present raw ↔ ∃ v, encode (some v) = raw
  encode_injective (v w : α) : encode (some v) = encode (some w) → v = w

/-- The two directions and which raw values are read determine all the rest. -/
theorem Exact.of_inverse {α ρ : Type} {encode : Option α → ρ} {decode : ρ → Option α}
    {present : ρ → Prop} (hreturns : ∀ value, decode (encode value) = value)
    (hrestores : ∀ raw v, decode raw = some v → encode (some v) = raw)
    (hpresent : ∀ raw, (∃ v, decode raw = some v) ↔ present raw) : Exact encode decode present where
  decode_encode := hreturns
  encode_decode := hrestores
  decode_eq_none_iff raw := by
    rw [← hpresent, Option.eq_none_iff_forall_ne_some, not_exists]
  present_iff raw := by
    rw [← hpresent]
    constructor
    · rintro ⟨v, hv⟩
      exact ⟨v, hrestores raw v hv⟩
    · rintro ⟨v, rfl⟩
      exact ⟨v, hreturns (some v)⟩
  encode_injective v w h := by
    have hdecoded := congrArg decode h
    rw [hreturns, hreturns] at hdecoded
    exact Option.some.inj hdecoded

theorem exact_bool : Exact encodeBool decodeBool fun raw => raw = 0 ∨ raw = 1 := by
  have hdecode (raw : Int32) (b : Bool) : decodeBool raw = some b ↔ raw = if b then 1 else 0 := by
    rw [decodeBool]
    by_cases hzero : raw = 0
    · subst hzero
      cases b <;> decide
    · by_cases hone : raw = 1
      · subst hone
        cases b <;> decide
      · cases b <;> simp [hzero, hone]
  refine .of_inverse decodeBool_encodeBool (fun raw b h => ?_) fun raw => ?_
  · rw [(hdecode raw b).1 h]
    cases b <;> rfl
  · simp only [hdecode, Bool.exists_bool, if_true, Bool.false_eq_true, if_false]

/-- A number of 64 bits is read when it is one of 32 bits. -/
theorem decodeInt_eq_some_iff {raw : Int64} {n : Int32} :
    decodeInt raw = some n ↔ n.toInt64 = raw := by
  rw [decodeInt]
  constructor
  · intro h
    split at h
    · rename_i hback
      rw [← Option.some.inj h]
      exact eq_of_beq hback
    · cases h
  · rintro rfl
    simp

theorem exists_toInt64_iff (raw : Int64) : (∃ n : Int32, n.toInt64 = raw) ↔
    Int32.minValue.toInt ≤ raw.toInt ∧ raw.toInt ≤ Int32.maxValue.toInt := by
  constructor
  · rintro ⟨n, rfl⟩
    rw [Int32.toInt_toInt64]
    exact ⟨n.minValue_le_toInt, n.toInt_le⟩
  · rintro ⟨hleast, hgreatest⟩
    refine ⟨Int32.ofInt raw.toInt, Int64.toInt_inj.1 ?_⟩
    rw [Int32.toInt_toInt64]
    exact Int32.toInt_ofInt_of_le hleast (Int.lt_add_one_of_le hgreatest)

theorem exact_int : Exact encodeInt decodeInt fun raw =>
    Int32.minValue.toInt ≤ raw.toInt ∧ raw.toInt ≤ Int32.maxValue.toInt := by
  refine .of_inverse decodeInt_encodeInt (fun raw n h => decodeInt_eq_some_iff.1 h) fun raw => ?_
  simp only [decodeInt_eq_some_iff, exists_toInt64_iff]

/-- A codec that writes the number of a value in bytes of a width, and makes the value of it again,
is exact. -/
theorem exact_bytes {α : Type} {width : Nat} (ofNumber : Nat → α) (toNumber : α → Nat)
    (hlt : ∀ v, toNumber v < 256 ^ width) (hback : ∀ v, ofNumber (toNumber v) = v)
    (hnumber : ∀ n < 256 ^ width, toNumber (ofNumber n) = n) :
    Exact (fun value : Option α => value.map fun v => lowBytes width (toNumber v))
      (fun raw => (number? width raw).map ofNumber) (HasWidth width) := by
  refine .of_inverse (fun value => ?_) (fun raw v h => ?_) fun raw => ?_
  · cases value with
    | none => rfl
    | some v =>
      rw [Option.map_some, number?_lowBytes (hlt v), Option.map_some, hback]
  · obtain ⟨n, hn, rfl⟩ := Option.map_eq_some_iff.1 h
    obtain ⟨hlt, rfl⟩ := number?_eq_some_iff.1 hn
    rw [Option.map_some, hnumber n hlt]
  · rw [← exists_number?_iff]
    constructor
    · rintro ⟨v, hv⟩
      obtain ⟨n, hn, -⟩ := Option.map_eq_some_iff.1 hv
      exact ⟨n, hn⟩
    · rintro ⟨n, hn⟩
      exact ⟨ofNumber n, Option.map_eq_some_iff.2 ⟨n, hn, rfl⟩⟩

/-- All five codecs undo themselves in both directions. A truth value is carried by zero or one, a
whole number by the longer one that is equal to it, and any other number by exactly as many bytes as
it has. -/
theorem codecs_exact :
    Exact encodeBool decodeBool (fun raw => raw = 0 ∨ raw = 1) ∧
      Exact encodeInt decodeInt (fun raw =>
        Int32.minValue.toInt ≤ raw.toInt ∧ raw.toInt ≤ Int32.maxValue.toInt) ∧
      Exact encodeLong decodeLong (HasWidth 8) ∧
      Exact encodeFloat decodeFloat (HasWidth 4) ∧
      Exact encodeDouble decodeDouble (HasWidth 8) := by
  refine ⟨exact_bool, exact_int, ?_, ?_, ?_⟩
  · -- The other three are numbers of a fixed count of bytes.
    apply exact_bytes (fun n => (UInt64.ofNat n).toInt64) fun n => n.toUInt64.toNat
    · exact fun n => n.toUInt64.toNat_lt
    · intro n
      rw [UInt64.ofNat_toNat, Int64.toInt64_toUInt64]
    · intro n hn
      rw [UInt64.toUInt64_toInt64, UInt64.toNat_ofNat_of_lt' hn]
  · apply exact_bytes (fun n => (⟨UInt32.ofNat n⟩ : Binary32)) fun x => x.bits.toNat
    · exact fun x => x.bits.toNat_lt
    · intro x
      rw [UInt32.ofNat_toNat]
    · intro n hn
      exact UInt32.toNat_ofNat_of_lt' hn
  · apply exact_bytes (fun n => (⟨UInt64.ofNat n⟩ : Binary64)) fun x => x.bits.toNat
    · exact fun x => x.bits.toNat_lt
    · intro x
      rw [UInt64.ofNat_toNat]
    · intro n hn
      exact UInt64.toNat_ofNat_of_lt' hn

end TypedPreferences.Nullable
