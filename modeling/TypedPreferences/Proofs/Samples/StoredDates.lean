import TypedPreferences.Proofs.Calendar.NumberedDates
import TypedPreferences.Proofs.Samples.CustomData

/-! Dates survive the converters of the samples. Each date has a number of its own and a text of its
own, from which it is made again; a number without a date gives the first day of 1970. -/

namespace TypedPreferences

namespace Date

open Text

/-- How the text of a date begins: with a sign where the year does not have four digits. -/
theorem head_text (d : Date) :
    (d.year < 0 ∧ d.text.toList.head? = some '-') ∨
      (9999 < d.year ∧ d.text.toList.head? = some '+') ∨
      (0 ≤ d.year ∧ d.year ≤ 9999 ∧ ∃ c, d.text.toList.head? = some c ∧ (digit? c).isSome = true) := by
  have hdigits := areDigits_padded 4 d.year.natAbs
  rw [text, String.toList_ofList, yearText]
  by_cases hplain : 0 ≤ d.year ∧ d.year ≤ 9999
  · refine .inr (.inr ⟨hplain.1, hplain.2, ?_⟩)
    rw [if_pos hplain]
    -- There are four digits, so there is a first one.
    cases hyear : padded 4 d.year.natAbs with
    | nil => exact absurd hyear (padded_ne_nil _ _)
    | cons c rest =>
      rw [hyear] at hdigits
      exact ⟨c, rfl, hdigits c List.mem_cons_self⟩
  · rw [if_neg hplain]
    by_cases hneg : d.year < 0
    · rw [if_pos hneg]
      exact .inl ⟨hneg, rfl⟩
    · rw [if_neg hneg]
      exact .inr (.inl ⟨by omega, rfl⟩)

theorem head_text_iff (d : Date) :
    (d.text.toList.head? = some '-' ↔ d.year < 0) ∧
      (d.text.toList.head? = some '+' ↔ 9999 < d.year) := by
  rcases d.head_text with ⟨hyear, hhead⟩ | ⟨hyear, hhead⟩ | ⟨hleast, hgreatest, c, hhead, hdigit⟩
  · rw [hhead]
    exact ⟨iff_of_true rfl hyear, iff_of_false (by decide) (by omega)⟩
  · rw [hhead]
    exact ⟨iff_of_false (by decide) (by omega), iff_of_true rfl hyear⟩
  · rw [hhead]
    constructor
    · refine iff_of_false ?_ (by omega)
      rintro ⟨⟩
      exact absurd hdigit (by decide)
    · refine iff_of_false ?_ (by omega)
      rintro ⟨⟩
      exact absurd hdigit (by decide)

end Date

namespace Samples

/-- Numbers of 64 bits that are numbers of dates are those of 32 bits that the calendar has. -/
theorem daysToDate_eq (n : Int64) : daysToDate n = (Date.ofNumber? n.toInt).getD Date.epoch := by
  rw [daysToDate]
  split
  · rfl
  · rename_i hbounds
    -- Outside 32 bits there is no date.
    have hnone : Date.ofNumber? n.toInt = none := by
      rw [Date.ofNumber?_eq_none_iff]
      intro d hd
      exact hbounds (hd ▸ d.number_bounds)
    rw [hnone]

theorem dateToDays_daysToDate {n : Int64} (h : ∃ d : Date, d.number = n.toInt) :
    dateToDays (daysToDate n) = n := by
  obtain ⟨d, hd⟩ := h
  rw [daysToDate_eq, ← hd, d.ofNumber?_number, Option.getD_some, dateToDays, hd, Int64.ofInt_toInt]

theorem daysToDate_of_no_date {n : Int64} (h : ∀ d : Date, d.number ≠ n.toInt) :
    daysToDate n = Date.epoch := by
  rw [daysToDate_eq, Date.ofNumber?_eq_none_iff.2 h, Option.getD_none]

theorem number_first : Date.first.number = -95746129 := by decide

theorem number_last : Date.last.number = 95745399 := by decide

theorem isSentinel_dateToDays (d : Date) :
    Primitive.long.isSentinel (dateToDays d) = false := by
  have hne : ¬ (dateToDays d == Int64.minValue) = true := by
    rw [beq_iff_eq]
    exact dateToDays_ne_minValue d
  exact Bool.eq_false_iff.2 hne

/-- The field that is stored as the number of a day reads back, whatever the store held. -/
theorem decode_encode_since (d : Date) (s : Shelf) :
    (customData.meaning.decode sinceField.plan sinceField.default
      (customData.meaning.encode sinceField.plan.field sinceField.plan.encode
        (.foreign (.date d)) s)).1 = .foreign (.date d) := by
  let kind := FieldKind.converted
    ⟨dateFunctions[0].declared, dateFunctions[1].declared, .long⟩
  let written := customData.meaning.encode sinceField.plan.field sinceField.plan.encode
    (.foreign (.date d)) s
  have hreading : customData.meaning.reading sinceField.plan.field kind
      (written.store.get? sinceField.plan.field.name) =
      if customData.meaning.writesAbsent sinceField.plan.field kind (.foreign (.date d)) then none
      else some (customData.meaning.kept sinceField.plan.field kind (.foreign (.date d))) := by
    have hkind : customData.context.kindOf customData.name sinceField.plan.field = .ok kind := rfl
    apply customData.meaning.reading_encode hkind
    · exact ⟨dateToDays d, rfl⟩
    · nofun
    · nofun
  -- No date has the reserved number, and the number of each leads back to it.
  have hpresent : customData.meaning.writesAbsent sinceField.plan.field kind (.foreign (.date d)) =
      false := isSentinel_dateToDays d
  have hkept : customData.meaning.kept sinceField.plan.field kind (.foreign (.date d)) =
      .foreign (.date d) :=
    congrArg (fun d => Datum.foreign (Foreign.date d)) (daysToDate_dateToDays d)
  rw [hpresent, hkept] at hreading
  calc (customData.meaning.decode sinceField.plan sinceField.default written).1
      = (customData.meaning.reading sinceField.plan.field kind
          (written.store.get? sinceField.plan.field.name)).getD sinceField.default :=
        customData.meaning.decode_ofKind_value _ kind _ written
    _ = .foreign (.date d) := by
      rw [hreading]
      rfl

/-- Dates and their numbers tell each other: a date comes back from its number, and a number of a
date from the date. Dates are numbered in the order of the calendar and without gaps, from the first
to the last, so that the first day of the year one has the number one; any other number gives the
first day of 1970. No date has the reserved number, so that a field of dates reads back what was
written, whatever the store held. -/
theorem day_numbers_exact :
    (∀ d : Date, (dateToDays d).toInt = d.number ∧ daysToDate (dateToDays d) = d) ∧
      (∀ n : Int64, (∃ d : Date, d.number = n.toInt) → dateToDays (daysToDate n) = n) ∧
      (∀ n : Int64, (∀ d : Date, d.number ≠ n.toInt) → daysToDate n = ⟨1970, 1, 1, by decide⟩) ∧
      (∀ n : Int64, (∃ d : Date, d.number = n.toInt) ↔
        -95746129 ≤ n.toInt ∧ n.toInt ≤ 95745399) ∧
      (Date.mk 1 1 1 (by decide)).number = 1 ∧
      (∀ d d' : Date, (dateToDays d).toInt < (dateToDays d').toInt ↔ d.Before d') ∧
      (∀ d : Date, Primitive.long.isSentinel (dateToDays d) = false) ∧
      ∀ (d : Date) (s : Shelf), (customData.meaning.decode sinceField.plan sinceField.default
        (customData.meaning.encode sinceField.plan.field sinceField.plan.encode
          (.foreign (.date d)) s)).1 = .foreign (.date d) := by
  refine ⟨fun d => ⟨toInt_dateToDays d, daysToDate_dateToDays d⟩, ?_, ?_, ?_, by decide, ?_,
    isSentinel_dateToDays, decode_encode_since⟩
  · intro n hdate
    exact dateToDays_daysToDate hdate
  · intro n hnone
    exact daysToDate_of_no_date hnone
  · intro n
    rw [Date.exists_number_iff, number_first, number_last]
  · intro d d'
    rw [toInt_dateToDays, toInt_dateToDays, Date.number_lt_iff_before]

/-- The last day of the calendar has the greatest number, and the number after it gives the first
day of 1970. -/
theorem day_numbers_exact_ends :
    (∃ d : Date, d.number = (95745399 : Int64).toInt) ∧
      dateToDays (daysToDate 95745399) = 95745399 ∧
      (∀ d : Date, d.number ≠ (95745400 : Int64).toInt) ∧ daysToDate 95745400 = Date.epoch := by
  obtain ⟨-, hback, hother, hrange, -⟩ := day_numbers_exact
  have hlast : ∃ d : Date, d.number = (95745399 : Int64).toInt := (hrange 95745399).2 (by decide)
  have hbeyond : ∀ d : Date, d.number ≠ (95745400 : Int64).toInt := by
    intro d hd
    exact absurd ((hrange 95745400).1 ⟨d, hd⟩) (by decide)
  exact ⟨hlast, hback _ hlast, hbeyond, hother _ hbeyond⟩

/-- A date comes back from its text, whatever the year, and so dates have different texts. The text
begins with a sign exactly where the year does not have four digits. -/
theorem date_texts_exact :
    (∀ d : Option Date, parseDate (formatDate d) = d) ∧ Function.Injective formatDate ∧
      ∀ d : Date, (d.text.toList.head? = some '-' ↔ d.year < 0) ∧
        (d.text.toList.head? = some '+' ↔ 9999 < d.year) :=
  ⟨parseDate_formatDate, Function.LeftInverse.injective parseDate_formatDate, Date.head_text_iff⟩

end Samples

end TypedPreferences
