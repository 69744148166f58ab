import TypedPreferences.Proofs.Text.Parts
import TypedPreferences.Proofs.Text.Trimming

/-! Which texts are read as whole numbers: digits after a sign, which may be missing, with white
space around them. -/

namespace TypedPreferences.Text

/-- A text of decimal digits, of which there is at least one. -/
def IsDecimal (cs : List Char) : Prop :=
  cs ≠ [] ∧ ∀ c ∈ cs, c.isDigit = true

/-- A text that spells a whole number: decimal digits after a sign, which may be missing. -/
inductive Spells : List Char → Int → Prop where
  | plain {digits : List Char} (h : IsDecimal digits) :
    Spells digits (Nat.ofDigitChars 10 digits 0)
  | plus {digits : List Char} (h : IsDecimal digits) :
    Spells ('+' :: digits) (Nat.ofDigitChars 10 digits 0)
  | minus {digits : List Char} (h : IsDecimal digits) :
    Spells ('-' :: digits) (-(Nat.ofDigitChars 10 digits 0 : Int))

/-- A text that spells a whole number of 32 bits, with white space around it or not. -/
def IsNumeral (part : List Char) (n : Int32) : Prop :=
  ∃ before core after, part = before ++ core ++ after ∧ AreBlank before ∧ AreBlank after ∧
    Spells core n.toInt

/-! Digits and the number that they make. -/

theorem digit?_eq (c : Char) : digit? c = if c.isDigit then some (c.toNat - '0'.toNat) else none := by
  have hrange : ('0' ≤ c && c ≤ '9') = c.isDigit := by
    simp only [Char.isDigit]
    rfl
  rw [digit?, hrange]
  rfl

/-- Digits are read one by one; anything else among them is refused. -/
theorem digitsFrom?_eq (n : Nat) (cs : List Char) :
    digitsFrom? n cs = if cs.all Char.isDigit then some (Nat.ofDigitChars 10 cs n) else none := by
  induction cs generalizing n with
  | nil => rfl
  | cons c cs ih =>
    rw [digitsFrom?, digit?_eq, List.all_cons]
    cases hdigit : c.isDigit with
    | false => rfl
    | true =>
      rw [if_pos rfl, Option.bind_some, ih, Bool.true_and, Nat.ofDigitChars_cons]

theorem natural?_eq_some_iff {cs : List Char} {n : Nat} :
    natural? cs = some n ↔ IsDecimal cs ∧ n = Nat.ofDigitChars 10 cs 0 := by
  cases cs with
  | nil => exact iff_of_false nofun fun h => h.1.1 rfl
  | cons c cs =>
    rw [natural?_of_ne_nil (List.cons_ne_nil c cs), digitsFrom?_eq, Option.ite_none_right_eq_some,
      List.all_eq_true, Option.some_inj, IsDecimal, eq_comm]
    exact and_congr_left' ⟨fun h => ⟨List.cons_ne_nil c cs, h⟩, fun h => h.2⟩

/-- The number with a sign that digits make. -/
theorem signed_eq_some_iff {cs : List Char} {n : Int} {sign : Int → Int} :
    (do let m ← natural? cs; pure (m : Int)).map sign = some n ↔
      IsDecimal cs ∧ sign (Nat.ofDigitChars 10 cs 0) = n := by
  rw [Option.map_eq_some_iff]
  constructor
  · rintro ⟨m, hm, rfl⟩
    obtain ⟨k, hk, hm⟩ := Option.bind_eq_some_iff.1 hm
    obtain ⟨hdecimal, rfl⟩ := natural?_eq_some_iff.1 hk
    exact ⟨hdecimal, congrArg sign (Option.some.inj hm)⟩
  · rintro ⟨hdecimal, hn⟩
    have hdigits := natural?_eq_some_iff.2 ⟨hdecimal, rfl⟩
    exact ⟨_, Option.bind_eq_some_iff.2 ⟨_, hdigits, rfl⟩, hn⟩

theorem IsDecimal.not_sign {c : Char} {cs : List Char} (h : IsDecimal (c :: cs)) :
    c ≠ '-' ∧ c ≠ '+' := by
  have hdigit : c.isDigit = true := h.2 c List.mem_cons_self
  constructor
  · rintro rfl
    exact absurd hdigit (by decide)
  · rintro rfl
    exact absurd hdigit (by decide)

/-- The reader of whole numbers takes the texts that spell one, and no others. -/
theorem integer?_eq_some_iff {cs : List Char} {n : Int} : integer? cs = some n ↔ Spells cs n := by
  constructor
  · intro h
    -- One case for each sign, and one for none.
    unfold integer? at h
    split at h
    · obtain ⟨hdecimal, rfl⟩ := signed_eq_some_iff.1 h
      exact .minus hdecimal
    · obtain ⟨hdecimal, rfl⟩ := signed_eq_some_iff.1 h
      exact .plus hdecimal
    · obtain ⟨hdecimal, rfl⟩ := signed_eq_some_iff.1 h
      exact .plain hdecimal
  · intro h
    cases h with
    | minus hdecimal => exact signed_eq_some_iff.2 ⟨hdecimal, rfl⟩
    | plus hdecimal => exact signed_eq_some_iff.2 ⟨hdecimal, rfl⟩
    | plain hdecimal =>
      have hread := (@signed_eq_some_iff cs _ fun n => n).2 ⟨hdecimal, rfl⟩
      cases cs with
      | nil => exact absurd rfl hdecimal.1
      | cons c cs =>
        obtain ⟨hminus, hplus⟩ := hdecimal.not_sign
        rw [integer?]
        · exact hread
        · rintro _ ⟨rfl, -⟩
          exact hminus rfl
        · rintro _ ⟨rfl, -⟩
          exact hplus rfl

/-! White space around a number. -/

theorem isBlank_of_isDigit {c : Char} (h : c.isDigit = true) : isBlank c = false := by
  apply isBlank_of_digit
  rw [digit?_eq, if_pos h]
  rfl

/-- No white space stands in the spelling of a number. -/
theorem Spells.not_blank {cs : List Char} {n : Int} (h : Spells cs n) :
    ∀ c ∈ cs, isBlank c = false := by
  have hdigits : ∀ {digits}, IsDecimal digits → ∀ c ∈ digits, isBlank c = false :=
    fun hdecimal c hc => isBlank_of_isDigit (hdecimal.2 c hc)
  cases h with
  | plain hdecimal => exact hdigits hdecimal
  | plus hdecimal => exact List.forall_mem_cons.2 ⟨by decide, hdigits hdecimal⟩
  | minus hdecimal => exact List.forall_mem_cons.2 ⟨by decide, hdigits hdecimal⟩

theorem int32?_eq_some_iff {cs : List Char} {n : Int32} :
    int32? cs = some n ↔ Spells cs n.toInt := by
  rw [int32?, Option.bind_eq_some_iff]
  constructor
  · rintro ⟨m, hm, hn⟩
    obtain ⟨hbounds, hn⟩ := Option.ite_none_right_eq_some.1 hn
    -- A number in bounds keeps its value.
    have hkept : n.toInt = m := by
      rw [← Option.some.inj hn, Int32.toInt_ofInt_of_le hbounds.1
        (Int.lt_of_le_of_lt hbounds.2 (by decide))]
    rw [hkept]
    exact integer?_eq_some_iff.1 hm
  · intro h
    have hbounds : Int32.minValue.toInt ≤ n.toInt ∧ n.toInt ≤ Int32.maxValue.toInt :=
      ⟨n.minValue_le_toInt, n.toInt_le⟩
    exact ⟨n.toInt, integer?_eq_some_iff.2 h, by rw [if_pos hbounds, Int32.ofInt_toInt]⟩

/-- A text counts as a number when, apart from white space around it, it spells one. -/
theorem int32?_trim_eq_some_iff {part : List Char} {n : Int32} :
    int32? (trim part) = some n ↔ IsNumeral part n := by
  rw [int32?_eq_some_iff]
  constructor
  · intro h
    obtain ⟨before, after, hpart, hbefore, hafter⟩ := exists_append_trim part
    exact ⟨before, trim part, after, hpart, hbefore, hafter, h⟩
  · rintro ⟨before, core, after, rfl, hbefore, hafter, hcore⟩
    rw [trim_append hbefore hafter (.of_forall hcore.not_blank)]
    exact hcore

end TypedPreferences.Text
