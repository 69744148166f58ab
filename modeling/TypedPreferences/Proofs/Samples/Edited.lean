import TypedPreferences.Proofs.Accessor.Histories
import TypedPreferences.Proofs.Packed.Records
import TypedPreferences.Proofs.Samples.CustomData
import TypedPreferences.Proofs.Samples.Settled

/-! Edits of the samples and a restart. All fields of the samples keep what is set for them, so an
accessor that is opened after any edits reads the values that were set last, except those that
count as missing once they are written. -/

namespace TypedPreferences.Samples

open Packed Source

/-- The values of a type of the samples that is not optional. -/
def HasPlainType : Ty → Datum Foreign → Prop
  | .plain _ "bool", d => ∃ b, d = value .boolean b
  | .plain _ "i32", d => ∃ n, d = value .integer n
  | .plain _ "i64", d => ∃ n, d = value .long n
  | .plain _ "f32", d => ∃ x, d = value .float x
  | .plain _ "f64", d => ∃ x, d = value .double x
  | .plain _ "String", d => ∃ text, d = value .text text
  | .plain _ "Level", d => ∃ level : Level, d = .entry level.name
  | .plain _ "Payload", d => ∃ name, ∃ weight : UInt32, d = .tree (payloadOf name weight.toNat)
  | .plain _ "NaiveDate", d => ∃ date, d = .foreign (.date date)
  | .plain _ "Color", d => ∃ color, d = .foreign (.color color)
  | .plain _ "Power", d => ∃ power, d = .foreign (.power power)
  | .applied _ "HashSet" _ [.type (.plain _ "String")] _, d => ∃ texts, d = value .textSet texts
  | .applied _ "BTreeSet" _ [.type (.plain _ "String")] _, d => ∃ texts, d = value .textSet texts
  | .applied _ "BTreeSet" _ [.type (.plain _ "Level")] _, d => ∃ set, d = .foreign (.levels set)
  | .applied _ "Vec" _ [.type (.plain _ "u8")] _, d => ∃ bytes, d = value .byteSequence bytes
  | .applied _ "Vec" _ [.type (.plain _ "i32")] _, d => ∃ ints, d = .foreign (.ints ints)
  | _, _ => False

/-- The values of a type of the samples. -/
def HasType : Ty → Datum Foreign → Prop
  | .applied _ "Option" _ [.type t] _, d => d.Optionally true (HasPlainType t)
  | t, d => HasPlainType t d

/-- The length of a text in a payload can be stated in the packed form. -/
def FitsPacked (d : Datum Foreign) : Prop :=
  ∀ name weight, d.payload = .tree (payloadOf name weight) → name.utf8ByteSize < 2 ^ 32

/-- A field of a sample is planned as one of a kind, and retains the values of its type. -/
structure Retains (s : Sample) (f : SampleField) (kind : FieldKind) : Prop where
  kindOf : s.context.kindOf s.name f.declared = .ok kind
  isValue : ∀ v, HasType f.type v → s.meaning.IsValue f.declared kind v
  sound : kind = .ordinal → (s.meaning.ordinals f.declared.typeName).Sound
  keeps : ∀ v, HasType f.type v → FitsPacked v → ∀ t, kind = .structured → v.payload = .tree t →
    (s.meaning.structured f.declared.typeName).Keeps t
  kept : ∀ v, HasType f.type v → s.meaning.writesAbsent f.declared kind v = false →
    s.meaning.kept f.declared kind v = v

section Kinds

variable {s : Sample} {f : SampleField}

end Kinds

section Samples

variable {s : Sample} (hs : s ∈ [primitiveData, nullableData, customData])
include hs

theorem isPlanned_layout : s.layout.IsPlanned s.context s.declaration :=
  isPlanned_of_mem (List.mem_append_left [edgePlain, edgeNullable, edgeConverted] hs)

/-- The fields of a layout are those of its sample, in their order. -/
theorem fields_layout : s.layout.fields.map (fun f => (f.plan.field, f.default)) =
    s.fields.map fun f => (f.declared, f.default) := by
  simp only [List.mem_cons, List.not_mem_nil, or_false] at hs
  rcases hs with rfl | rfl | rfl <;> rfl

theorem exists_live {f : SampleField} (hf : f ∈ s.fields) :
    ∃ live ∈ s.layout.fields, live.plan.field = f.declared ∧ live.default = f.default := by
  have hmem : (f.declared, f.default) ∈ s.layout.fields.map fun f => (f.plan.field, f.default) := by
    rw [fields_layout hs]
    exact List.mem_map_of_mem hf
  obtain ⟨live, hlive, heq⟩ := List.mem_map.1 hmem
  exact ⟨live, hlive, congrArg Prod.fst heq, congrArg Prod.snd heq⟩

/-- A field of a sample that was set is read after the edits as the value that was set last, or as
its default. -/
theorem value?_restarted {f : SampleField} (hf : f ∈ s.fields) {kind : FieldKind}
    (hretains : Retains s f kind) (w : Space Foreign) (space : String)
    {history : List (List (String × Datum Foreign))} {value : Datum Foreign}
    (hlast : IsLastSet history.flatten f.name value) (htype : HasType f.type value)
    (hfits : FitsPacked value) :
    (Accessor.restarted s.layout w space history).value? f.name =
      some (if s.meaning.writesAbsent f.declared kind value then f.default else value) := by
  obtain ⟨live, hlive, hfield, hdefault⟩ := exists_live hs hf
  obtain ⟨hkind, hvalue, hsound, hkeeps, hkept⟩ := hretains
  have hname : live.name = f.name := congrArg Field.name hfield
  rw [← hfield] at hkind hvalue hsound hkeeps hkept ⊢
  rw [← hname] at hlast ⊢
  have hread := Accessor.value?_restarted_of_last w space (isPlanned_layout hs) hlive hkind
    (hvalue value htype) hsound (hkeeps value htype hfits) hlast
  refine hread.trans ?_
  rw [hdefault]
  -- A value that is not read as the default is one that the field keeps.
  change some (if s.meaning.writesAbsent live.plan.field kind value then f.default
    else s.meaning.kept live.plan.field kind value) = _
  cases habsent : s.meaning.writesAbsent live.plan.field kind value with
  | true => rfl
  | false => rw [hkept value htype habsent]

end Samples

end TypedPreferences.Samples
