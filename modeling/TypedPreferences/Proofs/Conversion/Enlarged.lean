import TypedPreferences.Proofs.Conversion.Lookup
import TypedPreferences.Samples.Functions

/-! What further converter functions change. Sources that come after the others change nothing that
was decided, be it a pair or a fault; and functions that neither take a type nor give it change
nothing at all for it, wherever they stand. -/

namespace TypedPreferences

/-- A list with further elements put in anywhere, each of which has a property. -/
inductive Interspersed {α : Type} (P : α → Prop) : List α → List α → Prop where
  | nil : Interspersed P [] []
  | kept (a : α) {as bs : List α} (rest : Interspersed P as bs) :
    Interspersed P (a :: as) (a :: bs)
  | further (b : α) {as bs : List α} (holds : P b) (rest : Interspersed P as bs) :
    Interspersed P as (b :: bs)

/-- Elements that fail a test do not change which element passes it first. -/
theorem Interspersed.find?_eq {α : Type} {P : α → Prop} {p : α → Bool}
    (hfails : ∀ b, P b → p b = false) {as bs : List α} (h : Interspersed P as bs) :
    bs.find? p = as.find? p := by
  induction h with
  | nil => rfl
  | kept a rest ih => rw [List.find?_cons, List.find?_cons, ih]
  | further b holds rest ih =>
    rw [List.find?_cons, hfails b holds]
    exact ih

/-- The first element that passes a test stays the first one when others come after it. -/
theorem find?_append_of_some {α : Type} {p : α → Bool} {as : List α} {a : α}
    (h : as.find? p = some a) (others : List α) : (as ++ others).find? p = some a := by
  rw [List.find?_append, h]
  rfl

/-- A function has no part in converting a type: it neither takes the type nor gives it. -/
structure ConverterFn.Irrelevant (f : ConverterFn) (rule : NullableRule) (target : TypeRef) :
    Prop where
  takes : ¬ f.Takes rule target
  gives : ¬ rule.Flows f.output target

namespace Registry

variable {target : TypeRef} {declaration field : String}

section Later

variable {rule : NullableRule} {functions : List ConverterFn} {encoder : ConverterFn}

theorem encoderFor?_append (h : (mk rule functions).encoderFor? target = some encoder)
    (others : List ConverterFn) :
    (mk rule (functions ++ others)).encoderFor? target = some encoder :=
  find?_append_of_some h others

theorem decoderFor?_append {decoder : ConverterFn}
    (h : (mk rule functions).decoderFor? target encoder = some decoder)
    (others : List ConverterFn) :
    (mk rule (functions ++ others)).decoderFor? target encoder = some decoder :=
  find?_append_of_some h others

/-- A search that ended with a pair ends with it, and so with the same outcome, when more functions
come after the others. -/
theorem find_append (h : (mk rule functions).find target declaration field ≠ .ok none)
    (others : List ConverterFn) :
    (mk rule (functions ++ others)).find target declaration field =
      (mk rule functions).find target declaration field := by
  rcases find_cases (mk rule functions) target declaration field with
    ⟨hnone, -⟩ | ⟨encoder, decoder, hencoder, hdecoder, hpair⟩
  · exact absurd hnone h
  -- Both functions stand before the new ones, so the new ones are not reached.
  · have hencoder' := encoderFor?_append hencoder others
    have hdecoder' := decoderFor?_append hdecoder others
    rw [hpair]
    exact find_of_pair hencoder' hdecoder'

end Later

/-- The outcome of a search depends on the functions that are found, and on nothing else. -/
theorem find_congr {r r' : Registry} (hencoder : r'.encoderFor? target = r.encoderFor? target)
    (hdecoder : ∀ encoder, r'.decoderFor? target encoder = r.decoderFor? target encoder) :
    r'.find target declaration field = r.find target declaration field := by
  unfold find
  simp only [hencoder, hdecoder]

section Anywhere

variable {rule : NullableRule} {functions functions' : List ConverterFn}
  (h : Interspersed (·.Irrelevant rule target) functions functions')

include h

theorem encoderFor?_of_irrelevant :
    (mk rule functions').encoderFor? target = (mk rule functions).encoderFor? target := by
  apply h.find?_eq
  intro f hf
  rw [← Bool.not_eq_true]
  intro htakes
  exact hf.takes (flowsInto_iff.1 htakes)

/-- A decoder gives the type, whatever the encoder is, so a function that does not give it is never
one. -/
theorem decoderFor?_of_irrelevant (encoder : ConverterFn) :
    (mk rule functions').decoderFor? target encoder =
      (mk rule functions).decoderFor? target encoder := by
  apply h.find?_eq
  intro f hf
  rw [← Bool.not_eq_true]
  intro hback
  exact hf.gives ((leadsBack_iff encoder f).1 hback).2

end Anywhere

/-- Further functions change no decided field: with more sources after the others the outcome is the
same, unless there was none. And functions that neither take the type nor give it change no outcome,
in whichever sources and at whichever positions they are put in. -/
theorem find_of_enlarged (rule : NullableRule) (sources : List ConverterSource) (target : TypeRef)
    (declaration field : String) :
    (∀ further, (ofSources rule sources).find target declaration field ≠ .ok none →
      (ofSources rule (sources ++ further)).find target declaration field =
        (ofSources rule sources).find target declaration field) ∧
    ∀ sources', Interspersed (·.Irrelevant rule target) (sources.flatMap (·.functions))
        (sources'.flatMap (·.functions)) →
      (ofSources rule sources').find target declaration field =
        (ofSources rule sources).find target declaration field := by
  constructor
  · intro further hdecided
    have hfunctions : (sources ++ further).flatMap (·.functions) =
        sources.flatMap (·.functions) ++ further.flatMap (·.functions) := List.flatMap_append
    unfold ofSources at hdecided ⊢
    rw [hfunctions]
    exact find_append hdecided _
  · intro sources' h
    exact find_congr (encoderFor?_of_irrelevant h) (decoderFor?_of_irrelevant h)

section Dates

open Samples

def dateSource : ConverterSource :=
  ⟨"DateConverters", dateFunctions.map (·.declared)⟩

def powerSource : ConverterSource :=
  ⟨"PowerConverters", powerFunctions.map (·.declared)⟩

/-- Another pair of functions for dates. -/
def dateTextSource : ConverterSource where
  name := "DateTexts"
  functions :=
    [⟨.single "show_date", "DateTexts::show_date", .ofTy (plain "NaiveDate"),
        .ofTy (plain "String")⟩,
      ⟨.single "read_date", "DateTexts::read_date", .ofTy (plain "String"),
        .ofTy (plain "NaiveDate")⟩]

/-- Dates stay stored as numbers of days when another pair for dates comes later, or functions for
something else come before. -/
theorem find_of_enlarged_dates :
    let date := TypeRef.ofTy (plain "NaiveDate")
    let days (sources : List ConverterSource) : Prop :=
      ∃ pair, (ofSources .lenient sources).find date "CustomData" "since" = .ok (some pair) ∧
        pair.encoder.display = "DateConverters::date_to_days" ∧ pair.primitive = .long
    days [dateSource] ∧ days ([dateSource] ++ [dateTextSource]) ∧
      Interspersed (·.Irrelevant .lenient date) ([dateSource].flatMap (·.functions))
        ([powerSource, dateSource].flatMap (·.functions)) ∧
      days [powerSource, dateSource] := by
  intro date days
  have hdays : days [dateSource] := ⟨_, rfl, rfl, rfl⟩
  have hkept : Interspersed (·.Irrelevant .lenient date) ([dateSource].flatMap (·.functions))
      ([dateSource].flatMap (·.functions)) :=
    .kept _ (.kept _ (.kept _ (.kept _ (.kept _ (.kept _ .nil)))))
  -- Neither the type `Power` nor `bool` has the base of a date.
  have hpowers : Interspersed (·.Irrelevant .lenient date) ([dateSource].flatMap (·.functions))
      ([powerSource, dateSource].flatMap (·.functions)) :=
    .further _ ⟨fun h => Bool.false_ne_true h.1, fun h => Bool.false_ne_true h.1⟩
      (.further _ ⟨fun h => Bool.false_ne_true h.1, fun h => Bool.false_ne_true h.1⟩ hkept)
  have hall := find_of_enlarged .lenient [dateSource] date "CustomData" "since"
  obtain ⟨pair, hpair, hencoder, hkind⟩ := hdays
  refine ⟨⟨pair, hpair, hencoder, hkind⟩, ⟨pair, ?_, hencoder, hkind⟩, hpowers,
    ⟨pair, ?_, hencoder, hkind⟩⟩
  · rw [hall.1 [dateTextSource] (by rw [hpair]; nofun)]
    exact hpair
  · rw [hall.2 [powerSource, dateSource] hpowers]
    exact hpair

end Dates

end Registry

end TypedPreferences
