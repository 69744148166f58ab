import TypedPreferences.Plan.Context
import TypedPreferences.Proofs.Plan.Accepted
import TypedPreferences.Samples.Functions

/-! Planning under the two rules for optional values. The lenient rule passes a value wherever the
exact one does, but the first function that takes a type is kept even when nothing leads back from
what it gives. So a declaration that is planned under the exact rule may be refused under the
lenient one, where a function that takes an optional value comes first. -/

namespace TypedPreferences

theorem NullableRule.lenient_accepts {slot value : Bool}
    (h : NullableRule.exact.accepts slot value = true) :
    NullableRule.lenient.accepts slot value = true := by
  cases slot <;> cases value <;> simp_all [NullableRule.accepts]

/-- The first match of a weaker test is the first match of the stronger one, or fails the stronger
one. -/
theorem find?_of_imp {α : Type} {p q : α → Bool} (himp : ∀ a, p a = true → q a = true)
    {as : List α} {a : α} (h : as.find? p = some a) :
    ∃ b, as.find? q = some b ∧ (b = a ∨ p b = false ∧ q b = true) := by
  induction as with
  | nil => cases h
  | cons first rest ih =>
    by_cases hp : p first = true
    · have ha : first = a := by simpa [List.find?_cons, hp] using h
      refine ⟨first, ?_, .inl ha⟩
      rw [List.find?_cons, himp first hp]
    · rw [Bool.not_eq_true] at hp
      by_cases hq : q first = true
      · refine ⟨first, ?_, .inr ⟨hp, hq⟩⟩
        rw [List.find?_cons, hq]
      · rw [Bool.not_eq_true] at hq
        have hrest : rest.find? p = some a := by simpa [List.find?_cons, hp] using h
        obtain ⟨b, hb, hor⟩ := ih hrest
        refine ⟨b, ?_, hor⟩
        rw [List.find?_cons, hq]
        exact hb

namespace Registry

/-- A function is completed for a type: some function leads from what it gives back to the type, and
what it gives can be stored. -/
structure Completed (r : Registry) (target : TypeRef) (encoder : ConverterFn) : Prop where
  decoded : ∃ decoder ∈ r.functions, r.flowsInto decoder.output target = true ∧
    r.flowsInto encoder.output decoder.receiver = true
  stored : ∃ kind, encoder.output.primitive? = some kind ∧
    (encoder.output.nullable = true → kind.isExistenceChecked = true)

/-- A pair is found when the first function that takes the type is completed; no later one is
tried. -/
theorem exists_find_iff {r : Registry} {target : TypeRef} {declaration field : String} :
    (∃ pair, r.find target declaration field = .ok (some pair)) ↔
      ∃ encoder, r.encoderFor? target = some encoder ∧ r.Completed target encoder := by
  constructor
  · rintro ⟨pair, h⟩
    obtain ⟨hencoder, hdecoder, hprimitive, hnullable⟩ := Registry.find_ok h
    have hmem := List.mem_of_find?_eq_some hdecoder
    have hfits := List.find?_some hdecoder
    rw [Bool.and_eq_true] at hfits
    exact ⟨pair.encoder, hencoder, ⟨pair.decoder, hmem, hfits⟩, pair.primitive, hprimitive,
      hnullable⟩
  · rintro ⟨encoder, hencoder, ⟨decoder, hmem, hback, hthere⟩, kind, hkind, hnullable⟩
    -- The first decoder that leads back need not be the one that is given; any of them will do.
    have hsome : (r.decoderFor? target encoder).isSome = true := by
      apply List.find?_isSome.2
      exact ⟨decoder, hmem, by rw [hback, hthere]; rfl⟩
    obtain ⟨first, hfirst⟩ := Option.isSome_iff_exists.1 hsome
    refine ⟨⟨encoder, first, kind⟩, ?_⟩
    unfold find
    rw [hencoder]
    dsimp only
    rw [hfirst]
    dsimp only
    rw [hkind]
    dsimp only
    rw [if_neg]
    intro h
    rw [Bool.and_eq_true, Bool.not_eq_true'] at h
    rw [hnullable h.1] at h
    cases h.2

section Rules

variable {functions : List ConverterFn} {target : TypeRef} {encoder : ConverterFn}

theorem flowsInto_lenient {value slot : TypeRef}
    (h : (Registry.mk .exact functions).flowsInto value slot = true) :
    (Registry.mk .lenient functions).flowsInto value slot = true := by
  unfold flowsInto at h ⊢
  rw [Bool.and_eq_true] at h ⊢
  exact ⟨h.1, NullableRule.lenient_accepts h.2⟩

theorem Completed.lenient (h : (Registry.mk .exact functions).Completed target encoder) :
    (Registry.mk .lenient functions).Completed target encoder := by
  obtain ⟨⟨decoder, hmem, hback, hthere⟩, hstored⟩ := h
  exact ⟨⟨decoder, hmem, flowsInto_lenient hback, flowsInto_lenient hthere⟩, hstored⟩

/-- What the lenient rule alone lets a value flow into is optional, and the value is not. -/
theorem optional_of_flowsInto_lenient {value slot : TypeRef}
    (hexact : (Registry.mk .exact functions).flowsInto value slot = false)
    (hlenient : (Registry.mk .lenient functions).flowsInto value slot = true) :
    value.nullable = false ∧ slot.nullable = true := by
  unfold flowsInto at hexact hlenient
  rw [Bool.and_eq_true] at hlenient
  rw [hlenient.1, Bool.true_and] at hexact
  have haccepts := hlenient.2
  revert hexact haccepts
  cases value.nullable <;> cases slot.nullable <;> simp [NullableRule.accepts]

/-- Under the lenient rule the encoder stays the same, unless a function that takes an optional
value comes before it for a type that is not optional. -/
theorem encoderFor?_lenient
    (h : (Registry.mk .exact functions).encoderFor? target = some encoder) :
    ∃ first, (Registry.mk .lenient functions).encoderFor? target = some first ∧
      (first = encoder ∨ target.nullable = false ∧ first.receiver.nullable = true) := by
  obtain ⟨first, hfirst, hor⟩ := find?_of_imp (fun f => flowsInto_lenient) h
  refine ⟨first, hfirst, ?_⟩
  rcases hor with rfl | ⟨hexact, hlenient⟩
  · exact .inl rfl
  · exact .inr (optional_of_flowsInto_lenient hexact hlenient)

end Rules

end Registry

namespace Context

variable {c : Context}

/-- The kind that a field has by what was found of converters for its type. -/
def kindOfFound (declaration : String) (field : Field) :
    Except Fault (Option ConverterPair) → Except Fault FieldKind
  | .error fault => .error fault
  | .ok (some pair) => .ok (.converted pair)
  | .ok none => .error (.unsupportedType declaration field.name field.type.display)

/-- Converters are asked for a field as the last thing, or they do not count for it. -/
theorem kindOf_cases (enums structured : List String) (declaration : String) (field : Field) :
    (∃ outcome, (∀ pair, outcome ≠ .ok (.converted pair)) ∧
        ∀ r, (Context.mk enums structured r).kindOf declaration field = outcome) ∨
      ∀ r, (Context.mk enums structured r).kindOf declaration field =
        kindOfFound declaration field (r.find field.type declaration field.name) := by
  -- The tests stand in the order of the function, and none before the last looks at converters.
  unfold kindOf
  generalize (if field.type.args.isEmpty then field.type.name? else none) = plain
  by_cases hvariadic : field.type.isVariadic = true
  · exact .inl ⟨.error _, nofun, fun r => if_pos hvariadic⟩
  by_cases hdefault : field.default.isNone = true
  · refine .inl ⟨.error (.missingDefault declaration field.name), nofun, fun r => ?_⟩
    rw [if_neg hvariadic, if_pos hdefault]
  by_cases hbyRef : field.type.byRef = true
  · refine .inl ⟨.error (.borrowedField declaration field.name field.type.display), nofun,
      fun r => ?_⟩
    rw [if_neg hvariadic, if_neg hdefault, if_pos hbyRef]
  by_cases hunresolved : field.type.isUnresolved = true
  · refine .inl ⟨.error (.unresolvedType declaration field.name field.type.display), nofun,
      fun r => ?_⟩
    rw [if_neg hvariadic, if_neg hdefault, if_neg hbyRef, if_pos hunresolved]
  simp only [if_neg hvariadic, if_neg hdefault, if_neg hbyRef, if_neg hunresolved]
  cases field.type.primitive? with
  | some kind => exact .inl ⟨.ok (.primitive kind), nofun, fun r => rfl⟩
  | none =>
    dsimp only
    by_cases henum : plain.any enums.contains = true
    · exact .inl ⟨.ok .ordinal, nofun, fun r => if_pos henum⟩
    by_cases hstructured : plain.any structured.contains = true
    · refine .inl ⟨.ok .structured, nofun, fun r => ?_⟩
      rw [if_neg henum, if_pos hstructured]
    refine .inr fun r => ?_
    rw [if_neg henum, if_neg hstructured]
    rcases r.find field.type declaration field.name with _ | _ | pair <;> rfl

theorem exists_kindOfFound_iff {declaration : String} {field : Field}
    {found : Except Fault (Option ConverterPair)} :
    (∃ kind, kindOfFound declaration field found = .ok kind) ↔ ∃ pair, found = .ok (some pair) := by
  rcases found with _ | _ | pair <;> simp [kindOfFound]

theorem planFields_run_ok {declaration : String} {seen : List String} {fields : List Field}
    (hkinds : ∀ field ∈ fields, ∃ kind, c.kindOf declaration field = .ok kind)
    (hnodup : (fields.map (·.name)).Nodup) (hnew : ∀ field ∈ fields, field.name ∉ seen)
    (events : Array Event) :
    ∃ plans, ((c.planFields declaration seen fields).run.run events).1 = .ok plans := by
  -- By induction on the fields; the names that were seen grow by one each time.
  induction fields generalizing seen events with
  | nil => exact ⟨[], rfl⟩
  | cons field rest ih =>
    obtain ⟨kind, hkind⟩ := hkinds field List.mem_cons_self
    have hplan : c.planOf declaration field = .ok (kind, .ofKind field kind) :=
      planOf_eq_ok.2 ⟨hkind, rfl⟩
    have hseen : seen.contains field.name = false := by
      simpa using hnew field List.mem_cons_self
    rw [List.map_cons, List.nodup_cons] at hnodup
    have hrest : ∀ other ∈ rest, other.name ∉ field.name :: seen := by
      intro other hother hmem
      rcases List.mem_cons.1 hmem with heq | hmem
      · exact hnodup.1 (heq ▸ List.mem_map_of_mem hother)
      · exact hnew other (List.mem_cons_of_mem _ hother) hmem
    rw [planFields_cons rest hseen, hplan]
    dsimp only
    obtain ⟨plans, hplans⟩ := ih (fun other hother => hkinds other (List.mem_cons_of_mem _ hother))
      hnodup.2 hrest
      (events.push (.plannedField declaration field.name kind.label field.persistDefault))
    exact ⟨(kind, .ofKind field kind) :: plans, by rw [hplans]; rfl⟩

/-- A declaration is planned when every field has a kind and no two fields have one name. -/
theorem exists_planDeclaration_iff {d : Declaration} :
    (∃ plans, (c.planDeclaration d).perform.1 = .ok plans) ↔
      (∀ field ∈ d.fields, ∃ kind, c.kindOf d.name field = .ok kind) ∧
        (d.fields.map (·.name)).Nodup := by
  constructor
  · rintro ⟨plans, h⟩
    obtain ⟨hplans, hnodup⟩ := planDeclaration_ok h
    refine ⟨fun field hfield => ?_, hnodup⟩
    have hmem : c.planOf d.name field ∈ plans.map Except.ok :=
      hplans ▸ List.mem_map_of_mem hfield
    obtain ⟨⟨kind, plan⟩, -, hplan⟩ := List.mem_map.1 hmem
    exact ⟨kind, (planOf_eq_ok.1 hplan.symm).1⟩
  · rintro ⟨hkinds, hnodup⟩
    exact planFields_run_ok hkinds hnodup (fun field _ => List.not_mem_nil) #[]

end Context

namespace Findings

variable {f : Findings} {declaration : String} {field : Field}

/-- A field that has a kind under the exact rule has one under the lenient rule just when a function
that the lenient rule puts before its encoder is completed. -/
theorem exists_kindOf_lenient_iff {kind : FieldKind}
    (h : (f.context .exact).kindOf declaration field = .ok kind) :
    (∃ kind', (f.context .lenient).kindOf declaration field = .ok kind') ↔
      ∀ pair first, kind = .converted pair → field.type.nullable = false →
        (f.context .lenient).registry.encoderFor? field.type = some first →
        first.receiver.nullable = true →
        (f.context .lenient).registry.Completed field.type first := by
  -- The rules differ only for a field whose converter is looked up.
  rcases Context.kindOf_cases f.enums.texts f.structured.texts declaration field with
    ⟨outcome, hother, hsame⟩ | hfound
  · have hexact : (f.context .exact).kindOf declaration field = outcome := hsame _
    have hlenient : (f.context .lenient).kindOf declaration field = outcome := hsame _
    constructor
    · rintro - pair first rfl
      exact absurd (hexact.symm.trans h) (hother pair)
    · intro _
      exact ⟨kind, hlenient.trans (hexact.symm.trans h)⟩
  · have hexact : (f.context .exact).kindOf declaration field = _ := hfound _
    have hlenient : (f.context .lenient).kindOf declaration field = _ := hfound _
    obtain ⟨pair, hpair⟩ := Context.exists_kindOfFound_iff.1 ⟨kind, hexact.symm.trans h⟩
    obtain ⟨encoder, hencoder, hcompleted⟩ := Registry.exists_find_iff.1 ⟨pair, hpair⟩
    obtain ⟨first, hfirst, hor⟩ := Registry.encoderFor?_lenient hencoder
    have hkind : kind = .converted pair := by
      rw [h, hpair] at hexact
      exact Except.ok.inj hexact
    rw [hlenient, Context.exists_kindOfFound_iff, Registry.exists_find_iff]
    constructor
    · rintro ⟨first', hfirst', hcompleted'⟩ - other - - hother -
      cases hfirst'.symm.trans hother
      exact hcompleted'
    · intro hall
      refine ⟨first, hfirst, ?_⟩
      rcases hor with rfl | ⟨htype, hreceiver⟩
      · exact hcompleted.lenient
      · exact hall pair first hkind htype hfirst hreceiver

/-- A declaration that is planned under the exact rule is planned under the lenient one as well just
when, for each converted field that is not optional, a function that takes an optional value and is
now the first to take the field's type is completed. -/
theorem planned_lenient_iff {d : Declaration} {plans : List (FieldKind × FieldPlan)}
    (h : ((f.context .exact).planDeclaration d).perform.1 = .ok plans) :
    (∃ plans', ((f.context .lenient).planDeclaration d).perform.1 = .ok plans') ↔
      ∀ field ∈ d.fields, ∀ pair first,
        (f.context .exact).kindOf d.name field = .ok (.converted pair) →
        field.type.nullable = false →
        (f.context .lenient).registry.encoderFor? field.type = some first →
        first.receiver.nullable = true →
        (f.context .lenient).registry.Completed field.type first := by
  obtain ⟨hkinds, hnodup⟩ := Context.exists_planDeclaration_iff.1 ⟨plans, h⟩
  rw [Context.exists_planDeclaration_iff]
  constructor
  · rintro ⟨hlenient, -⟩ field hfield pair first hpair htype hfirst hreceiver
    exact (exists_kindOf_lenient_iff hpair).1 (hlenient field hfield) pair first rfl htype hfirst
      hreceiver
  · intro hall
    refine ⟨fun field hfield => ?_, hnodup⟩
    obtain ⟨kind, hkind⟩ := hkinds field hfield
    apply (exists_kindOf_lenient_iff hkind).2
    rintro pair first rfl
    exact hall field hfield pair first hkind

section Dates

open Samples

/-- A converter by its declared types alone. -/
def converter (name : String) (receiver output : Source.Ty) : ConverterFn :=
  ⟨.single name, name, .ofTy receiver, .ofTy output⟩

/-- Converters of dates: one for optional dates, with a function that may lead back from what it
gives, and after them two that lead from dates to days and back. -/
def dated (back : ConverterFn) : Findings where
  converters := [⟨"DateConverters",
    [converter "format_date" (optional (plain "NaiveDate")) (optional (plain "String")), back,
      converter "date_to_days" (plain "NaiveDate") (plain "i64"),
      converter "days_to_date" (plain "i64") (plain "NaiveDate")]⟩]

def birthday : Declaration where
  name := "Birthday"
  id := "birthday"
  module := []
  fields := [⟨"date", .ofTy (plain "NaiveDate"), some [.ident "today"], false⟩]

/-- A function that gives a date for every optional text completes the first of the converters. -/
theorem planned_lenient_iff_birthday :
    let f := dated (converter "read_date" (optional (plain "String")) (plain "NaiveDate"))
    (∃ plans, ((f.context .exact).planDeclaration birthday).perform.1 = .ok plans) ∧
      ∃ plans, ((f.context .lenient).planDeclaration birthday).perform.1 = .ok plans := by
  refine ⟨⟨_, rfl⟩, (planned_lenient_iff rfl).2 ?_⟩
  intro field hfield pair first hpair htype hfirst hreceiver
  rw [List.mem_singleton.1 hfield] at hfirst ⊢
  cases hfirst
  exact ⟨⟨_, List.mem_cons_of_mem _ List.mem_cons_self, rfl, rfl⟩, .text, rfl, fun _ => rfl⟩

/-- A function that gives an optional date leads back to no date, so the lenient rule keeps the
first converter and finds no way back from it. -/
theorem refused_lenient_birthday :
    let f := dated
      (converter "parse_date" (optional (plain "String")) (optional (plain "NaiveDate")))
    (∃ plans, ((f.context .exact).planDeclaration birthday).perform.1 = .ok plans) ∧
      ((f.context .lenient).planDeclaration birthday).perform.1 =
        .error (.unsupportedType "Birthday" "date" "NaiveDate") := by
  refine ⟨⟨_, rfl⟩, ?_⟩
  rfl

end Dates

end Findings

end TypedPreferences
