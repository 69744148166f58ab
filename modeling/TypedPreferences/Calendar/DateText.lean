import TypedPreferences.Calendar.Date
import TypedPreferences.Text.Integer

/-! Dates as texts: the year, the month and the day with hyphens between them. A year below zero or
above 9999 has a sign. -/

namespace TypedPreferences.Date

open Text

def yearText (year : Int) : List Char :=
  if 0 ≤ year ∧ year ≤ 9999 then padded 4 year.natAbs
  else (if year < 0 then '-' else '+') :: padded 4 year.natAbs

def text (d : Date) : String :=
  String.ofList (yearText d.year ++ '-' :: padded 2 d.month ++ '-' :: padded 2 d.day)

/-- The number that the digits at the front of a text make, at least one and at most `most` of them,
and the rest. -/
def leadingNumber? (most : Option Nat) (cs : List Char) : Option (Nat × List Char) :=
  let digits := cs.takeWhile fun c => (digit? c).isSome
  let digits := match most with
    | some n => digits.take n
    | none => digits
  (natural? digits).map fun n => (n, cs.drop digits.length)

/-- The year at the front of a text, after white space: digits after a sign, or at most four digits.
-/
def leadingYear? (cs : List Char) : Option (Int × List Char) :=
  match trimStart cs with
  | '-' :: rest => (leadingNumber? none rest).map fun (n, rest) => (-(n : Int), rest)
  | '+' :: rest => (leadingNumber? none rest).map fun (n, rest) => ((n : Int), rest)
  | cs => (leadingNumber? (some 4) cs).map fun (n, rest) => ((n : Int), rest)

/-- A month or a day at the front of a text, after white space: at most two digits. -/
def leadingPair? (cs : List Char) : Option (Nat × List Char) :=
  leadingNumber? (some 2) (trimStart cs)

def afterHyphen? : List Char → Option (List Char)
  | '-' :: rest => some rest
  | _ => none

def ofText? (text : String) : Option Date := do
  let (year, rest) ← leadingYear? text.toList
  let (month, rest) ← leadingPair? (← afterHyphen? rest)
  let (day, rest) ← leadingPair? (← afterHyphen? rest)
  if rest.isEmpty then of? year month day else none

end TypedPreferences.Date
