import TypedPreferences.Proofs.Accessor.Editing
import TypedPreferences.Proofs.Samples.Converters

/-! Values of the sample whose fields are all stored through converter functions. All of them
survive being stored, but for one colour, whose bits are those of the number that stands for no
colour. -/

namespace TypedPreferences.Samples

/-- The values of the fields of the sample. -/
structure CustomData where
  since : Date
  untilDate : Option Date
  pinned : List Int32
  accent : UInt32
  levels : LevelSet
  power : Power

namespace CustomData

def values (c : CustomData) : Snapshot Foreign :=
  [("since", .foreign (.date c.since)),
    ("until", .ofOption (fun d => .foreign (.date d)) c.untilDate),
    ("pinned", .foreign (.ints c.pinned)),
    ("accent", .foreign (.color c.accent)),
    ("levels", .foreign (.levels c.levels)),
    ("power", .foreign (.power c.power))]

/-- The colour whose bits are those of the least number with a sign. -/
def reservedColor : UInt32 := 0x80000000

/-- What is read once the values were stored: the reserved colour counts as missing, and the default
colour is read in its place. -/
def stored (c : CustomData) : CustomData :=
  if c.accent = reservedColor then { c with accent := 0xff00ff } else c

theorem nodup_values (c : CustomData) : (c.values.map (·.1)).Nodup := by
  simp only [values, List.map_cons, List.map_nil]
  decide

end CustomData

/-- A field of the sample, planned for the pair that an encoder and a decoder make for a kind. -/
def liveField (f : SampleField) (encoder decoder : Function) (kind : Primitive) :
    LiveField Foreign :=
  ⟨.ofKind f.declared (.converted ⟨encoder.declared, decoder.declared, kind⟩), f.default⟩

def sinceField : LiveField Foreign :=
  liveField customData.fields[0] dateFunctions[0] dateFunctions[1] .long

def untilField : LiveField Foreign :=
  liveField customData.fields[1] dateFunctions[2] dateFunctions[3] .text

def pinnedField : LiveField Foreign :=
  liveField customData.fields[2] listFunctions[0] listFunctions[1] .text

def accentField : LiveField Foreign :=
  liveField customData.fields[3] dateFunctions[4] dateFunctions[5] .integer

def levelsField : LiveField Foreign :=
  liveField customData.fields[4] levelFunctions[0] levelFunctions[1] .textSet

def powerField : LiveField Foreign :=
  liveField customData.fields[5] powerFunctions[0] powerFunctions[1] .boolean

/-- The pairs of functions are those that planning finds for the types of the fields. -/
theorem fields_customData :
    customData.layout.fields =
      [sinceField, untilField, pinnedField, accentField, levelsField, powerField] := rfl

theorem isPlanned_customData :
    customData.layout.IsPlanned customData.context customData.declaration :=
  isPlanned_of_mem (by simp [samples])

theorem colorToBits_eq_minValue (color : UInt32) :
    colorToBits color = Int32.minValue ↔ color = CustomData.reservedColor := by
  constructor
  · intro heq
    have hback := congrArg bitsToColor heq
    rw [bitsToColor_colorToBits] at hback
    rw [hback]
    decide
  · rintro rfl
    decide

/-- The text of a date is made into the date again by the function that is looked up for it. -/
theorem call_parseDate (d : Date) :
    customData.meaning.call dateFunctions[3].declared.path (.present (.stored ⟨.text, d.text⟩)) =
      .present (.foreign (.date d)) := by
  -- Stated for all texts, so that none is taken apart when the function is looked up.
  have hrun (t : String) : customData.meaning.call dateFunctions[3].declared.path
      (.present (.stored ⟨.text, t⟩)) =
      Datum.ofOption (fun d => .foreign (.date d)) (parseDate (some t)) := rfl
  have hback : parseDate (some d.text) = some d := parseDate_formatDate (some d)
  rw [hrun, hback]
  rfl

/-- The store in use after an editor of the sample set some values. -/
def shelfAfter (w : Space Foreign) (space : String) (held : Snapshot Foreign)
    (sets : List (String × Datum Foreign)) : Shelf :=
  let e : Editor Foreign := { layout := customData.layout, space, values := held }
  (e.setAll w sets).2.shelf space

/-- What a new accessor of the sample shows after an editor of it set some values. -/
def shownAfter (w : Space Foreign) (space : String) (held : Snapshot Foreign)
    (sets : List (String × Datum Foreign)) : Snapshot Foreign :=
  let e : Editor Foreign := { layout := customData.layout, space, values := held }
  (({ layout := customData.layout, space } : Accessor Foreign).get (e.setAll w sets).2).1.value

theorem shownAfter_eq (w : Space Foreign) (space : String) (held : Snapshot Foreign)
    (sets : List (String × Datum Foreign)) :
    shownAfter w space held sets = customData.layout.fields.map fun f =>
      (f.name, (customData.meaning.decode f.plan f.default (shelfAfter w space held sets)).1) := by
  rw [shownAfter, Accessor.get_value_fresh]
  exact Layout.decodeFields_values _ isPlanned_customData.nodup _

section Stored

variable {c : CustomData} {sets : List (String × Datum Foreign)} (hsets : sets.Perm c.values)
variable (w : Space Foreign) (space : String) (held : Snapshot Foreign)

include hsets

/-- A field of the sample that was set, with all the others, is read as what the decoder makes of
what the encoder made of its value, unless this stands for a missing value. -/
theorem decode_stored (i : Nat) {f : LiveField Foreign}
    (hf : customData.layout.fields[i]? = some f) {pair : ConverterPair}
    (hkind : customData.context.kindOf customData.name f.plan.field = .ok (.converted pair))
    {value : Datum Foreign} (hset : c.values[i]? = some (f.name, value))
    (hvalue : customData.meaning.IsValue f.plan.field (.converted pair) value) :
    (customData.meaning.decode f.plan f.default (shelfAfter w space held sets)).1 =
      if customData.meaning.writesAbsent f.plan.field (.converted pair) value then f.default
      else customData.meaning.kept f.plan.field (.converted pair) value := by
  have hnodup : (sets.map (·.1)).Nodup := (hsets.map (·.1)).nodup_iff.2 c.nodup_values
  have hmem : (f.name, value) ∈ sets := hsets.mem_iff.2 (List.mem_of_getElem? hset)
  exact isPlanned_customData.decode_setAll (List.mem_of_getElem? hf) hkind hvalue
    (fun h => by cases h) (fun _ h => by cases h) space held w hnodup hmem

theorem decode_since :
    (customData.meaning.decode sinceField.plan sinceField.default
      (shelfAfter w space held sets)).1 = .foreign (.date c.since) := by
  have hread := decode_stored hsets w space held 0 (f := sinceField) rfl rfl rfl
    ⟨dateToDays c.since, rfl⟩
  -- No date has the reserved number.
  have habsent : ¬(dateToDays c.since == Int64.minValue) = true := by
    rw [beq_iff_eq]
    exact dateToDays_ne_minValue c.since
  have hback := congrArg (fun d => Datum.foreign (Foreign.date d)) (daysToDate_dateToDays c.since)
  exact hread.trans ((if_neg habsent).trans hback)

theorem decode_until :
    (customData.meaning.decode untilField.plan untilField.default
      (shelfAfter w space held sets)).1 =
        .ofOption (fun d => .foreign (.date d)) c.untilDate := by
  have hread := decode_stored hsets w space held 1 (f := untilField) rfl rfl rfl (by
      cases c.untilDate with
      | none => exact .inl rfl
      | some d => exact .inr ⟨_, ⟨d.text, rfl⟩, rfl⟩)
  refine hread.trans ?_
  -- No date leaves no entry, and the default, which is read then, is no date.
  cases c.untilDate with
  | none => rfl
  | some d => exact call_parseDate d

theorem decode_pinned :
    (customData.meaning.decode pinnedField.plan pinnedField.default
      (shelfAfter w space held sets)).1 = .foreign (.ints c.pinned) := by
  have hread := decode_stored hsets w space held 2 (f := pinnedField) rfl rfl rfl
    ⟨joinInts c.pinned, rfl⟩
  have hback := congrArg (fun l => Datum.foreign (Foreign.ints l)) (splitInts_joinInts c.pinned)
  exact hread.trans hback

theorem decode_accent :
    (customData.meaning.decode accentField.plan accentField.default
      (shelfAfter w space held sets)).1 =
        .foreign (.color
          (if c.accent = CustomData.reservedColor then 0xff00ff else c.accent)) := by
  have hread := decode_stored hsets w space held 3 (f := accentField) rfl rfl rfl
    ⟨colorToBits c.accent, rfl⟩
  have habsent : (colorToBits c.accent == Int32.minValue) = true ↔
      c.accent = CustomData.reservedColor := by
    rw [beq_iff_eq, colorToBits_eq_minValue]
  have hback := congrArg (fun bits => Datum.foreign (Foreign.color bits))
    (bitsToColor_colorToBits c.accent)
  -- The reserved bits count as missing when they are read.
  by_cases hreserved : c.accent = CustomData.reservedColor
  · rw [if_pos hreserved]
    exact hread.trans (if_pos (habsent.2 hreserved))
  · rw [if_neg hreserved]
    exact hread.trans ((if_neg (mt habsent.1 hreserved)).trans hback)

theorem decode_levels :
    (customData.meaning.decode levelsField.plan levelsField.default
      (shelfAfter w space held sets)).1 = .foreign (.levels c.levels) := by
  have hread := decode_stored hsets w space held 4 (f := levelsField) rfl rfl rfl
    ⟨levelsToNames c.levels, rfl⟩
  have hback := congrArg (fun s => Datum.foreign (Foreign.levels s))
    (namesToLevels_levelsToNames c.levels)
  exact hread.trans hback

theorem decode_power :
    (customData.meaning.decode powerField.plan powerField.default
      (shelfAfter w space held sets)).1 = .foreign (.power c.power) := by
  have hread := decode_stored hsets w space held 5 (f := powerField) rfl rfl rfl
    ⟨powerToBool c.power, rfl⟩
  have hback := congrArg (fun p => Datum.foreign (Foreign.power p))
    (boolToPower_powerToBool c.power)
  exact hread.trans hback

/-- A new accessor shows all values that an editor set, in whatever order, whatever the store held
before. Only the reserved colour is not shown: the default colour is. -/
theorem shown_after_setting_all : shownAfter w space held sets = c.stored.values := by
  -- The default colour is shown in place of the reserved one.
  have hstored : c.stored.values = [("since", .foreign (.date c.since)),
      ("until", .ofOption (fun d => .foreign (.date d)) c.untilDate),
      ("pinned", .foreign (.ints c.pinned)),
      ("accent", .foreign (.color
        (if c.accent = CustomData.reservedColor then 0xff00ff else c.accent))),
      ("levels", .foreign (.levels c.levels)), ("power", .foreign (.power c.power))] := by
    rw [CustomData.stored]
    split <;> rfl
  rw [shownAfter_eq, fields_customData, hstored,
    ← decode_since hsets w space held, ← decode_until hsets w space held,
    ← decode_pinned hsets w space held, ← decode_accent hsets w space held,
    ← decode_levels hsets w space held, ← decode_power hsets w space held]
  rfl

end Stored

/-- Empty and missing values survive. -/
theorem shown_after_setting_empty :
    let c : CustomData := ⟨Date.epoch, none, [], 0x7fffffff, {}, .off⟩
    c.values.Perm c.values ∧ shownAfter {} "custom" [] c.values = c.values := by
  intro c
  have hstored : c.stored = c := if_neg (by decide)
  have hshown := shown_after_setting_all (c := c) (List.Perm.refl c.values) {} "custom" []
  rw [hstored] at hshown
  exact ⟨List.Perm.refl c.values, hshown⟩

/-- The reserved colour does not survive. -/
theorem shown_after_setting_reserved_color :
    let c : CustomData := ⟨Date.epoch, none, [], 0x80000000, {}, .off⟩
    (shownAfter {} "custom" [] c.values).value? "accent" = some (.foreign (.color 0xff00ff)) ∧
      shownAfter {} "custom" [] c.values ≠ c.values := by
  intro c
  have hf : accentField ∈ customData.layout.fields := List.mem_of_getElem? (i := 3) rfl
  have hreserved : c.accent = CustomData.reservedColor := rfl
  have hread := decode_accent (List.Perm.refl c.values) {} "custom" []
  rw [if_pos hreserved] at hread
  have hshown : (shownAfter {} "custom" [] c.values).value? "accent" =
      some (.foreign (.color 0xff00ff)) := by
    rw [shownAfter_eq, Snapshot.value?, Layout.lookup_map_name, ← hread]
    exact congrArg (Option.map _) (Layout.find?_name isPlanned_customData.nodup hf)
  have hset : c.values.value? "accent" = some (.foreign (.color 0x80000000)) := rfl
  refine ⟨hshown, ?_⟩
  intro hsame
  rw [hsame, hset] at hshown
  cases hshown

end TypedPreferences.Samples
