import Mathlib.Data.Int.Init
import TypedPreferences.Proofs.Calendar.DayNumbers

/-! Which whole numbers are numbers of dates: all from that of the first date to that of the last,
and no others, in the order of the calendar. Dates are found by the numbers that they have. -/

namespace TypedPreferences

namespace Calendar

/-- A year begins when all days of the year before it have passed. -/
theorem daysBeforeYear_succ (year : Int) :
    daysBeforeYear (year + 1) = daysBeforeYear year + yearLength year := by
  obtain ⟨cycle, century, quad, rest, hcentury, hquad, hrest, rfl⟩ := exists_place year
  rw [yearLength_place hcentury hquad hrest, daysBeforeYear_place hcentury hquad hrest]
  unfold daysBeforeYear
  dsimp only
  split <;> omega

theorem yearLength_pos (year : Int) : 0 < yearLength year := by
  rw [yearLength]
  cases isLeap year <;> decide

theorem daysBeforeYear_mono {year year' : Int} (h : year ≤ year') :
    daysBeforeYear year ≤ daysBeforeYear year' := by
  unfold daysBeforeYear
  dsimp only
  omega

/-- Every number is the number of a day in some year, by induction on the number upwards and
downwards. -/
theorem exists_day (number : Int) :
    ∃ (year : Int) (day : Nat), day < yearLength year ∧
      number = daysBeforeYear year + day + 1 := by
  induction number using Int.induction_on with
  | zero => exact ⟨0, 365, by decide, by decide⟩
  | succ i ih =>
    obtain ⟨year, day, hday, hnumber⟩ := ih
    by_cases hlast : day + 1 < yearLength year
    · exact ⟨year, day + 1, hlast, by omega⟩
    -- After the last day of a year comes the first of the next.
    · have hnext := daysBeforeYear_succ year
      exact ⟨year + 1, 0, yearLength_pos _, by omega⟩
  | pred i ih =>
    obtain ⟨year, day, hday, hnumber⟩ := ih
    by_cases hfirst : 0 < day
    · exact ⟨year, day - 1, by omega, by omega⟩
    -- Before the first day of a year comes the last of the year before.
    · have hbefore := daysBeforeYear_succ (year - 1)
      have hpos := yearLength_pos (year - 1)
      rw [Int.sub_add_cancel] at hbefore
      exact ⟨year - 1, yearLength (year - 1) - 1, by omega, by omega⟩

/-- Every day of a year is a day of one of its months. -/
theorem exists_total_take {lengths : List Nat} {day : Nat} (h : day < total lengths) :
    ∃ (i : Nat) (hi : i < lengths.length) (rest : Nat), rest < lengths[i] ∧
      day = total (lengths.take i) + rest := by
  induction lengths generalizing day with
  | nil => exact absurd h (Nat.not_lt_zero day)
  | cons length lengths ih =>
    rw [total] at h
    by_cases hfirst : day < length
    · refine ⟨0, Nat.zero_lt_succ _, day, hfirst, ?_⟩
      rw [List.take_zero, total, Nat.zero_add]
    · have hlater : day - length < total lengths := by omega
      obtain ⟨i, hi, rest, hrest, hday⟩ := ih hlater
      refine ⟨i + 1, Nat.succ_lt_succ hi, rest, hrest, ?_⟩
      rw [List.take_succ_cons, total]
      omega

theorem total_take_succ {lengths : List Nat} {i : Nat} (hi : i < lengths.length) :
    total (lengths.take (i + 1)) = total (lengths.take i) + lengths[i] := by
  induction lengths generalizing i with
  | nil => exact absurd hi (Nat.not_lt_zero i)
  | cons length lengths ih =>
    cases i with
    | zero =>
      rw [List.take_succ_cons, List.take_zero, total, List.take_zero, total, Nat.add_zero,
        Nat.zero_add]
      rfl
    | succ i =>
      have hrest := ih (Nat.lt_of_succ_lt_succ hi)
      rw [List.take_succ_cons, List.take_succ_cons, total, total, hrest, Nat.add_assoc]
      rfl

theorem total_take_mono (lengths : List Nat) {i j : Nat} (h : i ≤ j) :
    total (lengths.take i) ≤ total (lengths.take j) := by
  induction lengths generalizing i j with
  | nil => exact Nat.le_of_eq (by rw [List.take_nil, List.take_nil])
  | cons length lengths ih =>
    cases i with
    | zero => exact Nat.zero_le _
    | succ i =>
      obtain ⟨j, rfl⟩ : ∃ k, j = k + 1 := ⟨j - 1, by omega⟩
      have hrest := ih (Nat.le_of_succ_le_succ h)
      rw [List.take_succ_cons, List.take_succ_cons, total, total]
      exact Nat.add_le_add_left hrest length

end Calendar

namespace Date

open Calendar

/-- The order of the calendar: by the year, then by the month, then by the day. -/
def Before (d d' : Date) : Prop :=
  d.year < d'.year ∨ d.year = d'.year ∧ (d.month < d'.month ∨ d.month = d'.month ∧ d.day < d'.day)

def first : Date := ⟨firstYear, 1, 1, by decide⟩

def last : Date := ⟨lastYear, 12, 31, by decide⟩

theorem number_bounds_year (d : Date) :
    daysBeforeYear d.year < d.number ∧ d.number ≤ daysBeforeYear (d.year + 1) := by
  obtain ⟨day, hday, hnumber, -⟩ := d.exists_dayOfYear
  have hlength := daysBeforeYear_succ d.year
  constructor <;> omega

theorem number_bounds_month (d : Date) :
    daysBeforeYear d.year + daysBeforeMonth d.year d.month < d.number ∧
      d.number ≤ daysBeforeYear d.year + daysBeforeMonth d.year (d.month + 1) := by
  obtain ⟨i, hi, hmonth, hday, hday'⟩ := d.exists_month
  have hnext : daysBeforeMonth d.year (d.month + 1) =
      daysBeforeMonth d.year d.month + (monthLengths (isLeap d.year))[i] := by
    rw [daysBeforeMonth, daysBeforeMonth, hmonth, Nat.add_sub_cancel, Nat.add_sub_cancel]
    exact total_take_succ hi
  rw [number]
  constructor <;> omega

theorem number_lt_of_before {d d' : Date} (h : d.Before d') : d.number < d'.number := by
  obtain ⟨hleast', -⟩ := d'.number_bounds_year
  obtain ⟨-, hgreatest⟩ := d.number_bounds_year
  obtain ⟨hmonth', -⟩ := d'.number_bounds_month
  obtain ⟨-, hmonth⟩ := d.number_bounds_month
  rcases h with hyear | ⟨hyear, hlt | ⟨heq, hday⟩⟩
  · have hmono := daysBeforeYear_mono (show d.year + 1 ≤ d'.year by omega)
    omega
  · have hmono : daysBeforeMonth d.year (d.month + 1) ≤ daysBeforeMonth d.year d'.month :=
      total_take_mono _ (by omega)
    rw [← hyear] at hmonth'
    omega
  · rw [number, number, hyear, heq]
    omega

/-- Dates are numbered in the order of the calendar. -/
theorem number_lt_iff_before {d d' : Date} : d.number < d'.number ↔ d.Before d' := by
  refine ⟨fun hlt => ?_, number_lt_of_before⟩
  -- Of two dates one is before the other, unless they are the same.
  have hcases : d.Before d' ∨ d'.Before d ∨
      (d.year = d'.year ∧ d.month = d'.month ∧ d.day = d'.day) := by
    unfold Before
    omega
  rcases hcases with hbefore | hafter | ⟨hyear, hmonth, hday⟩
  · exact hbefore
  · have hgt := number_lt_of_before hafter
    omega
  · rw [number, number, hyear, hmonth, hday] at hlt
    exact absurd hlt (Int.lt_irrefl _)

/-- The days of the years of the calendar are dates. -/
theorem exists_of_dayOfYear {year : Int} {day : Nat} (hfirst : firstYear ≤ year)
    (hlast : year ≤ lastYear) (hday : day < yearLength year) :
    ∃ d : Date, d.number = daysBeforeYear year + day + 1 := by
  obtain ⟨i, hi, rest, hrest, rfl⟩ := exists_total_take hday
  have hmonths : i < 12 := hi
  have hlength : monthLength year (i + 1) = (monthLengths (isLeap year))[i] := by
    rw [monthLength, if_neg (Nat.succ_ne_zero i), Nat.add_sub_cancel,
      List.getElem?_eq_getElem hi]
    rfl
  have hdate : IsDate year (i + 1) (rest + 1) := by
    refine ⟨hfirst, hlast, Nat.le_add_left 1 i, by omega, Nat.le_add_left 1 rest, ?_⟩
    rw [hlength]
    exact hrest
  refine ⟨⟨year, i + 1, rest + 1, hdate⟩, ?_⟩
  have hbefore : daysBeforeMonth year (i + 1) = total ((monthLengths (isLeap year)).take i) := by
    rw [daysBeforeMonth, Nat.add_sub_cancel]
  rw [number, hbefore]
  push_cast
  omega

/-- The calendar has no gaps. -/
theorem exists_number_iff (n : Int) :
    (∃ d : Date, d.number = n) ↔ first.number ≤ n ∧ n ≤ last.number := by
  have hleast : first.number = daysBeforeYear firstYear + 1 := by decide
  have hgreatest : last.number = daysBeforeYear (lastYear + 1) := by decide
  rw [hleast, hgreatest]
  constructor
  · rintro ⟨d, rfl⟩
    obtain ⟨hfirst, hlast, -⟩ := d.isDate
    obtain ⟨hleast, hgreatest⟩ := d.number_bounds_year
    have hbefore := daysBeforeYear_mono hfirst
    have hafter := daysBeforeYear_mono (Int.add_le_add_right hlast 1)
    constructor <;> omega
  · rintro ⟨hn, hn'⟩
    obtain ⟨year, day, hday, rfl⟩ := exists_day n
    have hlength := daysBeforeYear_succ year
    -- A year outside the calendar has no day between its first and its last.
    have hfirst : firstYear ≤ year := by
      apply Int.not_lt.1
      intro hearly
      have hmono := daysBeforeYear_mono (show year + 1 ≤ firstYear by omega)
      omega
    have hlast : year ≤ lastYear := by
      apply Int.not_lt.1
      intro hlate
      have hmono := daysBeforeYear_mono (show lastYear + 1 ≤ year by omega)
      omega
    exact exists_of_dayOfYear hfirst hlast hday

/-- What is found for a number is the date that has it. -/
theorem ofNumber?_eq_some_iff {n : Int} {d : Date} : ofNumber? n = some d ↔ d.number = n := by
  constructor
  · intro h
    obtain ⟨year, day, hday, rfl⟩ := exists_day n
    -- The year of what is found is the year of the number, so it lies in the calendar.
    have hyear : d.year = year := by
      rw [ofNumber?, yearAndDay_daysBeforeYear hday] at h
      obtain ⟨hdate, hfound⟩ := Option.dite_none_right_eq_some.1 h
      rw [← Option.some.inj hfound]
    obtain ⟨hfirst, hlast, -⟩ := d.isDate
    rw [hyear] at hfirst hlast
    obtain ⟨d', hd'⟩ := exists_of_dayOfYear hfirst hlast hday
    rw [← hd', ofNumber?_number] at h
    rw [← Option.some.inj h, hd']
  · rintro rfl
    exact d.ofNumber?_number

/-- Nothing is found for a number outside the calendar. -/
theorem ofNumber?_eq_none_iff {n : Int} : ofNumber? n = none ↔ ∀ d : Date, d.number ≠ n := by
  rw [Option.eq_none_iff_forall_ne_some]
  exact forall_congr' fun d => not_congr ofNumber?_eq_some_iff

end Date

end TypedPreferences
