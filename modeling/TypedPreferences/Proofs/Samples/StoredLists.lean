import TypedPreferences.Proofs.Samples.Converters
import TypedPreferences.Proofs.Text.Numerals

/-! Lists of whole numbers survive the converters of the samples, and any text is read as the numbers
among its parts between commas. -/

namespace TypedPreferences.Samples

open Text

/-- The whole numbers among parts of a text, in their order. A part that is no number is passed over.
-/
inductive NumbersAmong : List (List Char) → List Int32 → Prop where
  | nil : NumbersAmong [] []
  | number {part : List Char} {n : Int32} {parts : List (List Char)} {numbers : List Int32}
    (h : IsNumeral part n) (rest : NumbersAmong parts numbers) :
    NumbersAmong (part :: parts) (n :: numbers)
  | other {part : List Char} {parts : List (List Char)} {numbers : List Int32}
    (h : ∀ n, ¬ IsNumeral part n) (rest : NumbersAmong parts numbers) :
    NumbersAmong (part :: parts) numbers

/-- The numbers among parts are what each part is read as. -/
theorem numbersAmong_iff {parts : List (List Char)} {numbers : List Int32} :
    NumbersAmong parts numbers ↔ parts.filterMap (fun part => int32? (trim part)) = numbers := by
  constructor
  · intro h
    induction h with
    | nil => rfl
    | number h _ ih =>
      rw [List.filterMap_cons, int32?_trim_eq_some_iff.2 h, ih]
    | other h _ ih =>
      have hnone : int32? (trim _) = none :=
        Option.eq_none_iff_forall_ne_some.2 fun n hn => h n (int32?_trim_eq_some_iff.1 hn)
      rw [List.filterMap_cons, hnone, ih]
  · rintro rfl
    induction parts with
    | nil => exact .nil
    | cons part parts ih =>
      rw [List.filterMap_cons]
      cases hpart : int32? (trim part) with
      | some n => exact .number (int32?_trim_eq_some_iff.1 hpart) ih
      | none =>
        refine .other (fun n hn => ?_) ih
        rw [int32?_trim_eq_some_iff.2 hn] at hpart
        cases hpart

/-- A list of whole numbers comes back from its text, whatever its length. Any text has parts between
commas, and is read as the numbers among them. -/
theorem list_texts_exact :
    (∀ values : List Int32, splitInts (joinInts values) = values) ∧
      ∀ text : String, ∃ parts : List (List Char), parts ≠ [] ∧ (∀ part ∈ parts, ',' ∉ part) ∧
        [','].intercalate parts = text.toList ∧
        ∀ numbers, NumbersAmong parts numbers ↔ splitInts text = numbers := by
  refine ⟨splitInts_joinInts, fun text => ?_⟩
  let parts := text.toList.splitOn ','
  have hread : splitInts text = parts.filterMap fun part => int32? (trim part) := by
    rw [splitInts, split_comma]
  refine ⟨parts, List.splitOn_ne_nil ',' _, not_mem_of_mem_splitOn, List.intercalate_splitOn ',',
    fun numbers => ?_⟩
  rw [numbersAmong_iff, hread]

/-- A number without digits, one that is too great and an empty part are passed over; signs and white
space are not. -/
theorem list_texts_exact_mixed :
    splitInts (joinInts [-2147483648, 0, 2147483647]) = [-2147483648, 0, 2147483647] ∧
      ∃ parts, parts ≠ [] ∧ (∀ part ∈ parts, ',' ∉ part) ∧
        [','].intercalate parts = "7,-,,2147483648, +8\t,-0".toList ∧
        NumbersAmong parts [7, 8, 0] := by
  obtain ⟨hback, hparts⟩ := list_texts_exact
  obtain ⟨parts, hne, hcommas, hjoined, hread⟩ := hparts "7,-,,2147483648, +8\t,-0"
  have hnumbers : splitInts "7,-,,2147483648, +8\t,-0" = [7, 8, 0] := by decide +kernel
  exact ⟨hback _, parts, hne, hcommas, hjoined, (hread _).2 hnumbers⟩

end TypedPreferences.Samples
