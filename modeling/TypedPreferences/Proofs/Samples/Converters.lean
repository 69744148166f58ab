import TypedPreferences.Proofs.Calendar.DateTexts
import TypedPreferences.Proofs.Text.Parts
import TypedPreferences.Proofs.Text.Trimming
import TypedPreferences.Samples.Converters

/-! The converter functions of the samples lose nothing: what an encoder makes of a value is made
into that value again. -/

namespace TypedPreferences.Samples

open Text

theorem toInt_dateToDays (d : Date) : (dateToDays d).toInt = d.number := by
  obtain ⟨hleast, hgreatest⟩ := d.number_bounds
  -- Numbers of 64 bits hold all of 32 bits.
  apply Int64.toInt_ofInt_of_le
  · exact Int.le_trans (by decide) hleast
  · exact Int.lt_of_le_of_lt hgreatest (by decide)

theorem daysToDate_dateToDays (d : Date) : daysToDate (dateToDays d) = d := by
  rw [daysToDate, toInt_dateToDays, if_pos d.number_bounds, d.ofNumber?_number, Option.getD_some]

theorem dateToDays_ne_minValue (d : Date) : dateToDays d ≠ Int64.minValue := by
  intro heq
  have hnumber : d.number = Int64.minValue.toInt := by
    rw [← heq, toInt_dateToDays]
  -- The reserved number has more than 32 bits.
  have hleast := d.number_bounds.1
  rw [hnumber] at hleast
  exact absurd hleast (by decide)

/-- A date comes back from its text, and none comes back from no text. -/
theorem parseDate_formatDate (d : Option Date) : parseDate (formatDate d) = d := by
  cases d with
  | none => rfl
  | some d => exact d.ofText?_text

theorem bitsToColor_colorToBits (color : UInt32) : bitsToColor (colorToBits color) = color :=
  color.toUInt32_toInt32

theorem boolToPower_powerToBool (power : Power) : boolToPower (powerToBool power) = power := by
  cases power <;> rfl

theorem namesToLevels_levelsToNames (levels : LevelSet) :
    namesToLevels (levelsToNames levels) = levels := by
  obtain ⟨low, medium, high⟩ := levels
  cases low <;> cases medium <;> cases high <;> decide

theorem not_comma_and_not_blank {n : Int} {c : Char} (h : c ∈ signedDecimal n) :
    c ≠ ',' ∧ isBlank c = false := by
  rcases mem_signedDecimal h with rfl | hdigit
  · decide
  · refine ⟨?_, isBlank_of_digit hdigit⟩
    rintro rfl
    exact absurd hdigit (by decide)

/-- A list of whole numbers comes back from its text; the text of the empty list has one part, which
is no number. -/
theorem splitInts_joinInts (values : List Int32) : splitInts (joinInts values) = values := by
  let parts := values.map fun n => signedDecimal n.toInt
  have hnumber (n : Int32) : int32? (trim (signedDecimal n.toInt)) = some n := by
    rw [trim_of_forall fun c hc => (not_comma_and_not_blank hc).2, int32?_signedDecimal]
  have hnumbers : parts.filterMap (fun part => int32? (trim part)) = values := by
    have hread : (fun part => int32? (trim part)) ∘ (fun n : Int32 => signedDecimal n.toInt) =
        some := funext hnumber
    rw [List.filterMap_map, hread, List.filterMap_some]
  rw [splitInts, joinInts, String.toList_ofList, split_comma]
  by_cases hne : values = []
  -- The text of no numbers is empty, and still has one part.
  · subst hne
    rfl
  · have hcommas : ∀ part ∈ parts, ',' ∉ part := by
      intro part hpart hmem
      obtain ⟨n, -, rfl⟩ := List.mem_map.1 hpart
      exact (not_comma_and_not_blank hmem).1 rfl
    have hparts : parts ≠ [] := fun heq => hne (List.map_eq_nil_iff.1 heq)
    have hsplit : (",".toList.intercalate parts).splitOn ',' = parts :=
      List.splitOn_intercalate ',' hcommas hparts
    rw [hsplit, hnumbers]

end TypedPreferences.Samples
