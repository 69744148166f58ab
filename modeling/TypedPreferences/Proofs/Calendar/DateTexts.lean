import TypedPreferences.Calendar.DateText
import TypedPreferences.Proofs.Calendar.DayNumbers
import TypedPreferences.Proofs.Text.Decimal

/-! Dates come back from their texts, also those whose years have a sign. -/

namespace TypedPreferences

namespace Text

/-- A text that does not go on with a digit. -/
def EndsNumber (cs : List Char) : Prop :=
  ∀ c ∈ cs.head?, digit? c = none

theorem endsNumber_nil : EndsNumber [] := by
  intro c hc
  cases hc

theorem endsNumber_hyphen (cs : List Char) : EndsNumber ('-' :: cs) := by
  intro c hc
  cases hc
  rfl

theorem trimStart_of_areDigits {cs : List Char} (h : AreDigits cs) (hne : cs ≠ [])
    (rest : List Char) : trimStart (cs ++ rest) = cs ++ rest := by
  cases cs with
  | nil => exact absurd rfl hne
  | cons c cs => exact trimStart_of_not_blank (isBlank_of_digit (h c List.mem_cons_self))

end Text

namespace Date

open Text

/-- Digits at the front of a text are read as far as they go. -/
theorem leadingNumber?_append {most : Option Nat} {cs rest : List Char} (hdigits : AreDigits cs)
    (hrest : EndsNumber rest) (hmost : ∀ n ∈ most, cs.length ≤ n) :
    leadingNumber? most (cs ++ rest) = (natural? cs).map fun n => (n, rest) := by
  -- The digits end where the rest begins, so they are taken without a part of it.
  have hend : rest.takeWhile (fun c => (digit? c).isSome) = [] := by
    cases rest with
    | nil => rfl
    | cons c rest =>
      have hno : digit? c = none := hrest c rfl
      rw [List.takeWhile_cons, hno]
      rfl
  have htaken : (cs ++ rest).takeWhile (fun c => (digit? c).isSome) = cs := by
    rw [List.takeWhile_append_of_pos hdigits, hend, List.append_nil]
  unfold leadingNumber?
  dsimp only
  rw [htaken]
  cases most with
  | none =>
    dsimp only
    rw [List.drop_left]
  | some n =>
    dsimp only
    rw [List.take_of_length_le (hmost n rfl), List.drop_left]

theorem leadingPair?_padded {n : Nat} (hn : n < 10 ^ 2) {rest : List Char}
    (hrest : EndsNumber rest) : leadingPair? (padded 2 n ++ rest) = some (n, rest) := by
  have hlength : ∀ k ∈ some 2, (padded 2 n).length ≤ k := by
    rintro k ⟨⟩
    exact Nat.le_of_eq (length_padded (by decide) hn)
  rw [leadingPair?, trimStart_of_areDigits (areDigits_padded 2 n) (padded_ne_nil 2 n),
    leadingNumber?_append (areDigits_padded 2 n) hrest hlength, natural?_padded, Option.map_some]

theorem leadingYear?_of_areDigits {cs : List Char} (h : AreDigits cs) (hne : cs ≠ [])
    (rest : List Char) :
    leadingYear? (cs ++ rest) =
      (leadingNumber? (some 4) (cs ++ rest)).map fun (n, rest) => ((n : Int), rest) := by
  rw [leadingYear?, trimStart_of_areDigits h hne]
  cases cs with
  | nil => exact absurd rfl hne
  | cons c cs =>
    have hdigit : (digit? c).isSome = true := h c List.mem_cons_self
    -- Neither sign is a digit, so the third case of the reader is taken.
    split
    · rename_i heq
      cases heq
      cases hdigit
    · rename_i heq
      cases heq
      cases hdigit
    · rfl

theorem leadingYear?_yearText (year : Int) {rest : List Char} (hrest : EndsNumber rest) :
    leadingYear? (yearText year ++ rest) = some (year, rest) := by
  have hdigits := areDigits_padded 4 year.natAbs
  rw [yearText]
  by_cases hplain : 0 ≤ year ∧ year ≤ 9999
  -- Without a sign there are four digits, which is all that the reader takes.
  · have hlength : ∀ k ∈ some 4, (padded 4 year.natAbs).length ≤ k := by
      rintro k ⟨⟩
      exact Nat.le_of_eq (length_padded (by decide) (by omega))
    have habs : (year.natAbs : Int) = year := by omega
    rw [if_pos hplain, leadingYear?_of_areDigits hdigits (padded_ne_nil _ _),
      leadingNumber?_append hdigits hrest hlength, natural?_padded]
    exact congrArg (fun y => some (y, rest)) habs
  · rw [if_neg hplain]
    have hnumber : leadingNumber? none (padded 4 year.natAbs ++ rest) =
        some (year.natAbs, rest) := by
      rw [leadingNumber?_append hdigits hrest (fun k hk => by cases hk), natural?_padded,
        Option.map_some]
    -- The sign comes first, and as many digits as there are after it.
    by_cases hneg : year < 0
    · have habs : -(year.natAbs : Int) = year := by omega
      rw [if_pos hneg, List.cons_append, leadingYear?, trimStart_of_not_blank (by decide)]
      refine (congrArg (Option.map fun p => (-(p.1 : Int), p.2)) hnumber).trans ?_
      exact congrArg (fun y => some (y, rest)) habs
    · have habs : (year.natAbs : Int) = year := by omega
      rw [if_neg hneg, List.cons_append, leadingYear?, trimStart_of_not_blank (by decide)]
      refine (congrArg (Option.map fun p => ((p.1 : Int), p.2)) hnumber).trans ?_
      exact congrArg (fun y => some (y, rest)) habs

theorem month_day_lt (d : Date) : d.month < 10 ^ 2 ∧ d.day < 10 ^ 2 := by
  obtain ⟨i, hi, hmonth, -, hday⟩ := d.exists_month
  have hlength : ∀ n ∈ Calendar.monthLengths (Calendar.isLeap d.year), n ≤ 31 := by
    cases Calendar.isLeap d.year <;> decide
  have hmost := hlength _ (List.getElem_mem hi)
  rw [Calendar.length_monthLengths] at hi
  constructor
  · omega
  · omega

theorem afterHyphen?_hyphen (rest : List Char) : afterHyphen? ('-' :: rest) = some rest := rfl

/-- The text of a date tells the date. -/
theorem ofText?_text (d : Date) : ofText? d.text = some d := by
  obtain ⟨hmonth, hday⟩ := d.month_day_lt
  have htext : d.text.toList =
      yearText d.year ++ '-' :: (padded 2 d.month ++ '-' :: (padded 2 d.day ++ [])) := by
    rw [text, String.toList_ofList, List.append_assoc, List.append_nil]
    rfl
  -- Each number is followed by a hyphen or the end, where the reading of its digits stops.
  have hreadYear := leadingYear?_yearText d.year
    (endsNumber_hyphen (padded 2 d.month ++ '-' :: (padded 2 d.day ++ [])))
  have hreadMonth := leadingPair?_padded hmonth (endsNumber_hyphen (padded 2 d.day ++ []))
  have hreadDay := leadingPair?_padded hday endsNumber_nil
  simp only [ofText?, htext, hreadYear, afterHyphen?_hyphen, hreadMonth, hreadDay,
    Option.bind_eq_bind, Option.bind_some, List.isEmpty_nil, if_true]
  rw [of?, dif_pos d.isDate]

end Date

end TypedPreferences
