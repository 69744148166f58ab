import TypedPreferences.Proofs.Fields.AllFields
import TypedPreferences.Proofs.Fields.RoundTrip

/-! Reading the fields of a layout settles their store: reading them again finds every entry as it
was left. The values are the same again where each default that may be written comes back from its
written form. -/

namespace TypedPreferences

namespace Meaning

variable {F : Type} (m : Meaning F) (field : Field)

/-- Writing a value again leaves the entry that writing it once left. -/
theorem entryAfter_entryAfter (raw : Write) (value : Datum F) (before : Option Stored) :
    m.entryAfter field raw value (m.entryAfter field raw value before) =
      m.entryAfter field raw value before := by
  cases raw with
  | scalar kind =>
    rw [entryAfter, entryAfter]
    cases value.as? kind <;> rfl
  | existence kind nullable =>
    cases nullable with
    | true => rfl
    | false =>
      rw [entryAfter, entryAfter]
      cases value.as? kind <;> rfl
  | ordinal nullable =>
    cases nullable with
    | true => rfl
    | false =>
      rw [entryAfter, entryAfter]
      cases value.entry? <;> rfl
  | marshal nullable =>
    rw [entryAfter, entryAfter]
    cases value.payload.tree? with
    | none => rfl
    | some t =>
      -- A value that is refused is refused again, and leaves the same entry again.
      dsimp only
      cases (m.structured field.typeName).pack field.name t <;> rfl
  | nullableScalar kind => rfl

/-- The entry that reading a field of a kind leaves, given the one before it. -/
def entryLeft (kind : FieldKind) (default : Datum F) (entry : Option Stored) : Option Stored :=
  if field.persistDefault && (m.reading field kind entry).isNone &&
      !kind.withholds field.type.nullable default then
    m.entryAfter field (kind.write field.type.nullable) (m.handed field kind default) entry
  else entry

theorem entryLeft_entryLeft (kind : FieldKind) (default : Datum F) (entry : Option Stored) :
    m.entryLeft field kind default (m.entryLeft field kind default entry) =
      m.entryLeft field kind default entry := by
  by_cases hwrites : (field.persistDefault && (m.reading field kind entry).isNone &&
      !kind.withholds field.type.nullable default) = true
  · have hleft : m.entryLeft field kind default entry =
        m.entryAfter field (kind.write field.type.nullable) (m.handed field kind default) entry :=
      if_pos hwrites
    -- Should the written default count as missing, then it is written again.
    rw [hleft, entryLeft, entryAfter_entryAfter, ite_self]
  · have hleft : m.entryLeft field kind default entry = entry := if_neg hwrites
    rw [hleft, hleft]

/-- A default comes back from its written form, unless this counts as missing. -/
def Returns (kind : FieldKind) (default : Datum F) : Prop :=
  ∀ before value,
    m.reading field kind (m.entryAfter field (kind.write field.type.nullable)
      (m.handed field kind default) before) = some value → value = default

/-- A default returns when it is a value that the field keeps. -/
theorem returns_of_kept {c : Context} {declaration : String} {field : Field} {kind : FieldKind}
    (hkind : c.kindOf declaration field = .ok kind) {default : Datum F}
    (hvalue : m.IsValue field kind default)
    (hordinals : kind = .ordinal → (m.ordinals field.typeName).Sound)
    (hkeeps : ∀ t, kind = .structured → default.payload = .tree t →
      (m.structured field.typeName).Keeps t)
    (hkept : m.kept field kind default = default) : m.Returns field kind default := by
  intro before value hread
  -- A shelf with the entry in question, as writing is told of shelves.
  obtain ⟨s, hs⟩ : ∃ s : Store, s.get? field.name = before := by
    cases before with
    | none => exact ⟨SortedMap.empty, rfl⟩
    | some e => exact ⟨SortedMap.empty.insert field.name e, by simp⟩
  have hback := m.reading_encode hkind hvalue hordinals hkeeps ⟨s, []⟩
  rw [get?_encode, hs, hread, hkept] at hback
  cases habsent : m.writesAbsent field kind default with
  | true => simp [habsent] at hback
  | false => simpa [habsent] using hback

/-- What is read from the entry that reading left is what was read before. -/
theorem reading_entryLeft {kind : FieldKind} {default : Datum F}
    (h : field.persistDefault = true → m.Returns field kind default) (entry : Option Stored) :
    (m.reading field kind (m.entryLeft field kind default entry)).getD default =
      (m.reading field kind entry).getD default := by
  rw [entryLeft]
  split
  · rename_i hwrites
    simp only [Bool.and_eq_true, Option.isNone_iff_eq_none] at hwrites
    obtain ⟨⟨hpersist, hmissing⟩, -⟩ := hwrites
    -- The default was shown, and is what its written form reads as, if it reads as a value.
    rw [hmissing, Option.getD_none]
    cases hread : m.reading field kind (m.entryAfter field (kind.write field.type.nullable)
      (m.handed field kind default) entry) with
    | none => rfl
    | some value => exact h hpersist entry value hread
  · rfl

end Meaning

namespace Layout

variable {F : Type} {l : Layout F} {c : Context} {d : Declaration}

theorem IsPlanned.decode_entry_eq (h : l.IsPlanned c d) {f : LiveField F} (hf : f ∈ l.fields)
    {kind : FieldKind} (hkind : c.kindOf d.name f.plan.field = .ok kind) (s : Shelf) :
    (l.decode s).2.store.get? f.name =
      l.meaning.entryLeft f.plan.field kind f.default (s.store.get? f.name) := by
  have hsteps : f.plan.encode = encodeSteps f.plan.field kind :=
    congrArg FieldPlan.encode (h.plan_eq hf hkind)
  have hwritten := l.meaning.get?_encode f.plan.field kind f.default s
  rw [h.decode_entry hf hkind, hsteps, Meaning.entryLeft]
  split
  · exact hwritten
  · rfl

/-- Reading a store that was read before leaves it as it is. -/
theorem IsPlanned.decode_again_store (h : l.IsPlanned c d) {s again : Shelf}
    (hagain : again.store = (l.decode s).2.store) : (l.decode again).2.store = again.store := by
  apply SortedMap.ext_get?
  intro key
  by_cases hkey : ∃ f ∈ l.fields, f.name = key
  · obtain ⟨f, hf, rfl⟩ := hkey
    obtain ⟨kind, hkind, -⟩ := h.kindOf hf
    rw [h.decode_entry_eq hf hkind, hagain, h.decode_entry_eq hf hkind,
      Meaning.entryLeft_entryLeft]
  · apply decode_entry_of_forall_ne h
    intro f hf heq
    exact hkey ⟨f, hf, heq⟩

/-- The defaults that may be written return. -/
def DefaultsReturn (l : Layout F) (c : Context) (d : Declaration) : Prop :=
  ∀ f ∈ l.fields, ∀ kind, c.kindOf d.name f.plan.field = .ok kind →
    f.plan.field.persistDefault = true → l.meaning.Returns f.plan.field kind f.default

theorem IsPlanned.decode_again_field (h : l.IsPlanned c d) (hdefaults : l.DefaultsReturn c d)
    {s again : Shelf} {f : LiveField F} (hf : f ∈ l.fields)
    (hagain : again.store.get? f.name = (l.decode s).2.store.get? f.name) :
    (l.meaning.decode f.plan f.default again).1 = (l.meaning.decode f.plan f.default s).1 := by
  obtain ⟨kind, hkind, -⟩ := h.kindOf hf
  have hreturns := hdefaults f hf kind hkind
  rw [h.decode_value hf hkind, h.decode_value hf hkind, hagain, h.decode_entry_eq hf hkind]
  exact l.meaning.reading_entryLeft f.plan.field hreturns _

/-- Reading a store that was read before gives the same values. -/
theorem IsPlanned.decode_again_values (h : l.IsPlanned c d) (hdefaults : l.DefaultsReturn c d)
    {s again : Shelf} (hagain : again.store = (l.decode s).2.store) :
    (l.decode again).1 = (l.decode s).1 := by
  have hfields : ∀ f ∈ l.fields, (f.name, (l.meaning.decode f.plan f.default again).1) =
      (f.name, (l.meaning.decode f.plan f.default s).1) := by
    intro f hf
    have hentry : again.store.get? f.name = (l.decode s).2.store.get? f.name := by rw [hagain]
    rw [h.decode_again_field hdefaults hf hentry]
  rw [decode, decode, decodeFields_values l h.nodup, decodeFields_values l h.nodup]
  exact List.map_congr_left hfields

end Layout

end TypedPreferences
