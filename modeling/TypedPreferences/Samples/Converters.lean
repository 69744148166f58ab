import TypedPreferences.Calendar.DateText
import TypedPreferences.Samples.Level
import TypedPreferences.Text.Replace
import TypedPreferences.Text.SortedMap

/-! Converter functions of the sample declarations: dates as numbers and as texts, colours as whole
numbers, power as a truth value, sets of levels as texts, lists of whole numbers as a text. -/

namespace TypedPreferences.Samples

open Text

def dateToDays (d : Date) : Int64 :=
  Int64.ofInt d.number

/-- The date of a number; the first day of 1970 where the calendar has none. -/
def daysToDate (days : Int64) : Date :=
  let n := days.toInt
  (if Int32.minValue.toInt ≤ n ∧ n ≤ Int32.maxValue.toInt then Date.ofNumber? n
    else none).getD Date.epoch

def formatDate (d : Option Date) : Option String :=
  d.map Date.text

def parseDate (text : Option String) : Option Date :=
  text.bind Date.ofText?

def colorToBits (color : UInt32) : Int32 :=
  color.toInt32

def bitsToColor (bits : Int32) : UInt32 :=
  bits.toUInt32

def powerToBool : Power → Bool
  | .on => true
  | .off => false

def boolToPower (on : Bool) : Power :=
  if on then .on else .off

def levelsToNames (levels : LevelSet) : TextSet :=
  TextSet.ofTexts (levels.toList.map fun l => String.ofList (signedDecimal l.ordinal.toInt))

/-- The levels whose ordinals stand in a set of texts; other texts are skipped. -/
def namesToLevels (names : TextSet) : LevelSet :=
  .ofList (names.texts.filterMap fun s => (int32? s.toList).bind Level.ofOrdinal?)

def joinInts (values : List Int32) : String :=
  String.ofList (",".toList.intercalate (values.map fun n => signedDecimal n.toInt))

/-- The whole numbers among the parts between commas, with white space around them dropped; other
parts are skipped. -/
def splitInts (text : String) : List Int32 :=
  (split "," text.toList).filterMap fun part => int32? (trim part)

end TypedPreferences.Samples
