/-! Dates of the Gregorian calendar, extended to all years, and their numbers: the first day of the
year one has the number one. -/

namespace TypedPreferences

namespace Calendar

/-- Whether a year has a day more: every fourth does, but of the full centuries only every fourth.
-/
def isLeap (year : Int) : Bool :=
  year % 4 == 0 && (year % 100 != 0 || year % 400 == 0)

def monthLengths (leap : Bool) : List Nat :=
  [31, if leap then 29 else 28, 31, 30, 31, 30, 31, 31, 30, 31, 30, 31]

def monthLength (year : Int) (month : Nat) : Nat :=
  if month = 0 then 0 else (monthLengths (isLeap year))[month - 1]?.getD 0

/-- How many days lie before a year, counted from the year one. -/
def daysBeforeYear (year : Int) : Int :=
  let y := year - 1
  365 * y + y / 4 - y / 100 + y / 400

def total : List Nat → Nat
  | [] => 0
  | length :: rest => length + total rest

def daysBeforeMonth (year : Int) (month : Nat) : Nat :=
  total ((monthLengths (isLeap year)).take (month - 1))

def firstYear : Int := -262143
def lastYear : Int := 262142

def IsDate (year : Int) (month day : Nat) : Prop :=
  firstYear ≤ year ∧ year ≤ lastYear ∧ 1 ≤ month ∧ month ≤ 12 ∧ 1 ≤ day ∧
    day ≤ monthLength year month

instance (year : Int) (month day : Nat) : Decidable (IsDate year month day) := by
  unfold IsDate; infer_instance

/-- The month and the day of a day of the year, counted from zero, given the lengths of the months
from some month on. -/
def monthAndDay (month : Nat) : List Nat → Nat → Nat × Nat
  | [], day => (month, day + 1)
  | length :: rest, day =>
    if day < length then (month, day + 1) else monthAndDay (month + 1) rest (day - length)

end Calendar

open Calendar

structure Date where
  year : Int
  month : Nat
  day : Nat
  isDate : IsDate year month day
deriving DecidableEq

namespace Date

def of? (year : Int) (month day : Nat) : Option Date :=
  if h : IsDate year month day then some ⟨year, month, day, h⟩ else none

def number (d : Date) : Int :=
  daysBeforeYear d.year + daysBeforeMonth d.year d.month + d.day

/-- The year of a day, given the number of the day, and the day of the year, counted from zero. A
cycle of 400 years has 146097 days; the last of its centuries and the last of four years have a day
more than the others. -/
def yearAndDay (number : Int) : Int × Nat :=
  let day := number - 1
  let cycle := day / 146097
  let inCycle := (day % 146097).toNat
  let century := min (inCycle / 36524) 3
  let inCentury := inCycle - 36524 * century
  let quad := inCentury / 1461
  let inQuad := inCentury % 1461
  let year := min (inQuad / 365) 3
  (400 * cycle + 100 * century + 4 * quad + year + 1, inQuad - 365 * year)

def ofNumber? (number : Int) : Option Date :=
  let (year, day) := yearAndDay number
  let (month, day) := monthAndDay 1 (monthLengths (isLeap year)) day
  of? year month day

def epoch : Date := ⟨1970, 1, 1, by decide⟩

instance : Inhabited Date := ⟨epoch⟩

end Date

end TypedPreferences
