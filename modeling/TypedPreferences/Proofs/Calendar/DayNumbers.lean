import TypedPreferences.Calendar.Date

/-! Days are numbered without gaps: the number of a date leads back to it. -/

namespace TypedPreferences

namespace Calendar

def yearLength (year : Int) : Nat :=
  total (monthLengths (isLeap year))

/-- Every year has a place in a cycle of 400 years: in one of four centuries, one of 25 groups of
four years, and one of four years. -/
theorem exists_place (year : Int) :
    ∃ (cycle : Int) (century quad rest : Nat), century ≤ 3 ∧ quad ≤ 24 ∧ rest ≤ 3 ∧
      year = 400 * cycle + 100 * century + 4 * quad + rest + 1 := by
  refine ⟨(year - 1) / 400, ((year - 1) % 400 / 100).toNat, ((year - 1) % 100 / 4).toNat,
    ((year - 1) % 4).toNat, ?_, ?_, ?_, ?_⟩
  · omega
  · omega
  · omega
  · omega

section Place

variable {cycle : Int} {century quad rest : Nat}

/-- The days before a year are those of the cycles, centuries, groups and years before it. -/
theorem daysBeforeYear_place (hcentury : century ≤ 3) (hquad : quad ≤ 24) (hrest : rest ≤ 3) :
    daysBeforeYear (400 * cycle + 100 * century + 4 * quad + rest + 1) =
      146097 * cycle + 36524 * century + 1461 * quad + 365 * rest := by
  unfold daysBeforeYear
  dsimp only
  -- In the leap days of the years before, fourths count, hundredths do not, 400ths do again.
  omega

/-- The last of four years has a day more, unless it ends a century that does not end a cycle. -/
theorem yearLength_place (hcentury : century ≤ 3) (hquad : quad ≤ 24) (hrest : rest ≤ 3) :
    yearLength (400 * cycle + 100 * century + 4 * quad + rest + 1) =
      if rest = 3 ∧ (quad = 24 → century = 3) then 366 else 365 := by
  -- A year ends its group, century or cycle when the places below are the last ones.
  have hleap : isLeap (400 * cycle + 100 * century + 4 * quad + rest + 1) = true ↔
      rest = 3 ∧ (quad = 24 → century = 3) := by
    simp only [isLeap, Bool.and_eq_true, Bool.or_eq_true, beq_iff_eq, bne_iff_ne]
    omega
  rw [yearLength]
  split
  · rename_i h
    rw [hleap.2 h]
    rfl
  · rename_i h
    rw [Bool.eq_false_iff.2 (mt hleap.1 h)]
    rfl

end Place

theorem yearAndDay_daysBeforeYear {year : Int} {day : Nat} (h : day < yearLength year) :
    Date.yearAndDay (daysBeforeYear year + day + 1) = (year, day) := by
  obtain ⟨cycle, century, quad, rest, hcentury, hquad, hrest, rfl⟩ := exists_place year
  rw [yearLength_place hcentury hquad hrest] at h
  rw [daysBeforeYear_place hcentury hquad hrest]
  have hday : day ≤ 365 := by
    split at h <;> omega
  -- Only the last year of a cycle, a century or a group may have the day that they have more.
  have hextra : day = 365 → rest = 3 ∧ (quad = 24 → century = 3) := by
    intro heq
    split at h
    · assumption
    · omega
  -- The days since the beginnings of the group, the century and the cycle of the year.
  let inQuad := 365 * rest + day
  let inCentury := 1461 * quad + inQuad
  let inCycle := 36524 * century + inCentury
  have hnumber : 146097 * cycle + 36524 * century + 1461 * quad + 365 * rest + day + 1 - 1 =
      146097 * cycle + (inCycle : Int) := by
    omega
  have hcycle : (146097 * cycle + (inCycle : Int)) / 146097 = cycle := by
    omega
  have hinCycle : ((146097 * cycle + (inCycle : Int)) % 146097).toNat = inCycle := by
    omega
  -- The quotient is one too large on the last day of a cycle, hence the minimum.
  have hcentury : min (inCycle / 36524) 3 = century := by
    omega
  have hinCentury : inCycle - 36524 * century = inCentury := by
    omega
  have hquad : inCentury / 1461 = quad := by
    omega
  have hinQuad : inCentury % 1461 = inQuad := by
    omega
  have hrest : min (inQuad / 365) 3 = rest := by
    omega
  have hday : inQuad - 365 * rest = day := by
    omega
  unfold Date.yearAndDay
  dsimp only
  rw [hnumber, hcycle, hinCycle, hcentury, hinCentury, hquad, hinQuad, hrest, hday]

theorem monthAndDay_total_take {lengths : List Nat} {i : Nat} (month day : Nat)
    (hi : i < lengths.length) (hday : day < lengths[i]) :
    monthAndDay month lengths (total (lengths.take i) + day) = (month + i, day + 1) := by
  induction lengths generalizing month i with
  | nil => exact absurd hi (Nat.not_lt_zero i)
  | cons length rest ih =>
    rw [monthAndDay]
    cases i with
    | zero =>
      -- The day lies in the first month.
      have hfirst : total ((length :: rest).take 0) + day = day := by
        rw [List.take_zero, total, Nat.zero_add]
      have hday : day < length := hday
      rw [hfirst, if_pos hday]
      rfl
    | succ i =>
      -- The first month has passed, with all its days.
      have hlater : total ((length :: rest).take (i + 1)) + day =
          length + (total (rest.take i) + day) := by
        rw [List.take_succ_cons, total, Nat.add_assoc]
      rw [hlater, if_neg (by omega), Nat.add_sub_cancel_left,
        ih (month + 1) (Nat.lt_of_succ_lt_succ hi) hday]
      congr 1
      omega

theorem total_take_add_lt {lengths : List Nat} {i day : Nat} (hi : i < lengths.length)
    (hday : day < lengths[i]) : total (lengths.take i) + day < total lengths := by
  induction lengths generalizing i with
  | nil => exact absurd hi (Nat.not_lt_zero i)
  | cons length rest ih =>
    cases i with
    | zero =>
      have hday : day < length := hday
      rw [List.take_zero, total, total]
      omega
    | succ i =>
      have hrest := ih (Nat.lt_of_succ_lt_succ hi) hday
      rw [List.take_succ_cons, total, total]
      omega

@[simp]
theorem length_monthLengths (leap : Bool) : (monthLengths leap).length = 12 := rfl

end Calendar

namespace Date

open Calendar

theorem exists_month (d : Date) :
    ∃ (i : Nat) (hi : i < (monthLengths (isLeap d.year)).length),
      d.month = i + 1 ∧ 1 ≤ d.day ∧ d.day ≤ (monthLengths (isLeap d.year))[i] := by
  obtain ⟨-, -, hmonth, hmonth', hday, hday'⟩ := d.isDate
  have hi : d.month - 1 < (monthLengths (isLeap d.year)).length := by
    rw [length_monthLengths]
    omega
  refine ⟨d.month - 1, hi, by omega, hday, ?_⟩
  rw [monthLength, if_neg (by omega), List.getElem?_eq_getElem hi] at hday'
  exact hday'

theorem exists_dayOfYear (d : Date) :
    ∃ day, day < yearLength d.year ∧ d.number = daysBeforeYear d.year + day + 1 ∧
      monthAndDay 1 (monthLengths (isLeap d.year)) day = (d.month, d.day) := by
  obtain ⟨i, hi, hmonth, hday, hday'⟩ := d.exists_month
  have hlt : d.day - 1 < (monthLengths (isLeap d.year))[i] := by
    omega
  -- Days of a year are counted from zero, those of a month from one.
  refine ⟨total ((monthLengths (isLeap d.year)).take i) + (d.day - 1), ?_, ?_, ?_⟩
  · exact total_take_add_lt hi hlt
  · have hbefore : daysBeforeMonth d.year d.month =
        total ((monthLengths (isLeap d.year)).take i) := by
      rw [daysBeforeMonth, hmonth, Nat.add_sub_cancel]
    rw [number, hbefore]
    omega
  · rw [monthAndDay_total_take 1 (d.day - 1) hi hlt, hmonth]
    congr 1 <;> omega

/-- The number of a date leads back to it. -/
theorem ofNumber?_number (d : Date) : ofNumber? d.number = some d := by
  obtain ⟨day, hday, hnumber, hmonth⟩ := d.exists_dayOfYear
  rw [ofNumber?, hnumber, yearAndDay_daysBeforeYear hday]
  dsimp only
  rw [hmonth]
  dsimp only
  rw [of?, dif_pos d.isDate]

theorem number_bounds (d : Date) :
    Int32.minValue.toInt ≤ d.number ∧ d.number ≤ Int32.maxValue.toInt := by
  have hleast : Int32.minValue.toInt = -0x80000000 := by decide
  have hgreatest : Int32.maxValue.toInt = 0x7fffffff := by decide
  obtain ⟨hfirst, hlast, -⟩ := d.isDate
  obtain ⟨day, hday, hnumber, -⟩ := d.exists_dayOfYear
  have hlength : yearLength d.year ≤ 366 := by
    rw [yearLength]
    cases isLeap d.year <;> decide
  -- The years of the calendar are far from where the numbers end.
  unfold firstYear at hfirst
  unfold lastYear at hlast
  rw [hnumber, hleast, hgreatest]
  unfold daysBeforeYear
  dsimp only
  omega

end Date

end TypedPreferences
