import Mathlib.Algebra.Group.Nat.Defs
import TypedPreferences.Text.Integer

/-! Whole numbers come back from their decimal digits, with zeros before them or a sign. -/

namespace TypedPreferences.Text

def AreDigits (cs : List Char) : Prop :=
  ∀ c ∈ cs, (digit? c).isSome = true

theorem digit?_digitChar : ∀ d < 10, digit? (Nat.digitChar d) = some d := by
  decide

theorem isBlank_of_digit {c : Char} (h : (digit? c).isSome = true) : isBlank c = false := by
  have hrange : ('0' ≤ c && c ≤ '9') = true := by
    rw [digit?] at h
    split at h
    · assumption
    · cases h
  rw [Bool.and_eq_true, decide_eq_true_eq, decide_eq_true_eq] at hrange
  have hleast : 48 ≤ c.toNat := hrange.1
  have hgreatest : c.toNat ≤ 57 := hrange.2
  simp only [isBlank, Bool.or_eq_false_iff, Bool.and_eq_false_iff, decide_eq_false_iff_not,
    beq_eq_false_iff_ne, ne_eq]
  omega

theorem areDigits_decimal (n : Nat) : AreDigits (decimal n) := by
  intro c hc
  have hdigit : c.isDigit = true := Nat.isDigit_of_mem_toDigits (by decide) (by decide) hc
  have hrange : ('0' ≤ c && c ≤ '9') = true := by
    simp only [Char.isDigit, Bool.and_eq_true, decide_eq_true_eq] at hdigit ⊢
    exact hdigit
  rw [digit?, if_pos hrange]
  rfl

theorem areDigits_padded (width n : Nat) : AreDigits (padded width n) := by
  intro c hc
  rcases List.mem_append.1 hc with hzero | hdigit
  · rw [(List.mem_replicate.1 hzero).2]
    decide
  · exact areDigits_decimal n c hdigit

theorem decimal_ne_nil (n : Nat) : decimal n ≠ [] :=
  Nat.toDigits_ne_nil

theorem padded_ne_nil (width n : Nat) : padded width n ≠ [] := by
  intro hnil
  exact decimal_ne_nil n (List.append_eq_nil_iff.1 hnil).2

theorem digitsFrom?_append (n : Nat) (cs rest : List Char) :
    digitsFrom? n (cs ++ rest) = (digitsFrom? n cs).bind fun n => digitsFrom? n rest := by
  induction cs generalizing n with
  | nil => rfl
  | cons c cs ih =>
    rw [List.cons_append, digitsFrom?, digitsFrom?]
    cases digit? c with
    | none => rfl
    | some d => exact ih (10 * n + d)

/-- The digits of a number make it again, by induction on the digits before the last. -/
theorem digitsFrom?_decimal (n : Nat) : digitsFrom? 0 (decimal n) = some n := by
  induction n using Nat.strongRecOn with
  | ind n ih =>
    by_cases hn : n < 10
    -- One digit, or the digits of the tenth part and one more.
    · have hone : decimal n = [Nat.digitChar n] := Nat.toDigits_of_lt_base hn
      rw [hone, digitsFrom?, digit?_digitChar n hn, Option.bind_some, digitsFrom?]
      congr 1
      omega
    · have hlast : n % 10 < 10 := Nat.mod_lt n (by decide)
      have hsplit : decimal n = decimal (n / 10) ++ [Nat.digitChar (n % 10)] :=
        Nat.toDigits_of_base_le (by decide) (Nat.le_of_not_lt hn)
      rw [hsplit, digitsFrom?_append, ih (n / 10) (by omega), Option.bind_some, digitsFrom?,
        digit?_digitChar _ hlast, Option.bind_some, digitsFrom?]
      congr 1
      omega

theorem natural?_of_ne_nil {cs : List Char} (h : cs ≠ []) : natural? cs = digitsFrom? 0 cs := by
  cases cs with
  | nil => exact absurd rfl h
  | cons c cs => rfl

theorem natural?_decimal (n : Nat) : natural? (decimal n) = some n := by
  rw [natural?_of_ne_nil (decimal_ne_nil n), digitsFrom?_decimal]

theorem digitsFrom?_zeros (count : Nat) (cs : List Char) :
    digitsFrom? 0 (List.replicate count '0' ++ cs) = digitsFrom? 0 cs := by
  induction count with
  | zero => rfl
  | succ count ih =>
    rw [List.replicate_succ, List.cons_append, digitsFrom?]
    exact ih

theorem natural?_padded (width n : Nat) : natural? (padded width n) = some n := by
  rw [natural?_of_ne_nil (padded_ne_nil width n), padded, digitsFrom?_zeros, digitsFrom?_decimal]

theorem length_padded {width n : Nat} (hwidth : 0 < width) (hn : n < 10 ^ width) :
    (padded width n).length = width := by
  have hlength : (decimal n).length ≤ width := (Nat.length_toDigits_le_iff (by decide) hwidth).2 hn
  rw [padded, List.length_append, List.length_replicate]
  omega

/-- A text of digits has no sign, so it makes a number that is not negative. -/
theorem integer?_of_areDigits {cs : List Char} (h : AreDigits cs) :
    integer? cs = (natural? cs).map fun n => (n : Int) := by
  cases cs with
  | nil => rfl
  | cons c cs =>
    have hdigit : (digit? c).isSome = true := h c List.mem_cons_self
    -- The first character is a digit, so neither sign is there.
    rw [integer?]
    · rintro _ ⟨rfl, -⟩
      exact absurd hdigit (by decide)
    · rintro _ ⟨rfl, -⟩
      exact absurd hdigit (by decide)

theorem integer?_signedDecimal (n : Int) : integer? (signedDecimal n) = some n := by
  rw [signedDecimal]
  by_cases hn : n < 0
  · have habs : -(n.natAbs : Int) = n := by omega
    rw [if_pos hn, integer?, natural?_decimal]
    exact congrArg some habs
  · have habs : (n.natAbs : Int) = n := by omega
    rw [if_neg hn, integer?_of_areDigits (areDigits_decimal _), natural?_decimal]
    exact congrArg some habs

/-- A whole number of 32 bits comes back from its digits and sign. -/
theorem int32?_signedDecimal (n : Int32) : int32? (signedDecimal n.toInt) = some n := by
  have hbounds : Int32.minValue.toInt ≤ n.toInt ∧ n.toInt ≤ Int32.maxValue.toInt :=
    ⟨n.minValue_le_toInt, n.toInt_le⟩
  rw [int32?, integer?_signedDecimal, Option.bind_some, if_pos hbounds, Int32.ofInt_toInt]

end TypedPreferences.Text
