import TypedPreferences.Proofs.Plan.Accepted

/-! Which pair of converter functions is found for a type, told by the order in which the functions
were registered: the first one that takes the type, and the first one that leads back from what that
one gives. All three outcomes of the search are told so, and neither function is looked for again
when the pair cannot be stored. -/

namespace TypedPreferences

/-- An element of a list with a property, and no element before it has the property. -/
def FirstOf {α : Type} (P : α → Prop) (as : List α) (a : α) : Prop :=
  P a ∧ ∃ before after, as = before ++ a :: after ∧ ∀ b ∈ before, ¬ P b

section First

variable {α : Type} {p : α → Bool} {P : α → Prop}

theorem find?_eq_some_iff_firstOf (h : ∀ a, p a = true ↔ P a) {as : List α} {a : α} :
    as.find? p = some a ↔ FirstOf P as a := by
  have hnot (b : α) : (!p b) = true ↔ ¬ P b := by
    rw [Bool.not_eq_true', ← h b, Bool.not_eq_true]
  simp only [List.find?_eq_some_iff_append, FirstOf, h, hnot]

theorem find?_eq_none_iff_forall (h : ∀ a, p a = true ↔ P a) {as : List α} :
    as.find? p = none ↔ ∀ a ∈ as, ¬ P a := by
  simp only [List.find?_eq_none, h]

end First

/-- A value of one type may be passed where another type is expected: both have one base, and a
value that may be missing is not passed where one must be there. The exact rule also refuses a value
that is there where one may be missing. -/
def NullableRule.Flows (rule : NullableRule) (value slot : TypeRef) : Prop :=
  value.sameBase slot = true ∧
    match rule with
    | .lenient => value.nullable = true → slot.nullable = true
    | .exact => value.nullable = slot.nullable

/-- Under either rule an optional value is passed only where an optional one is expected. -/
theorem NullableRule.Flows.nullable_le {rule : NullableRule} {value slot : TypeRef}
    (h : rule.Flows value slot) (hvalue : value.nullable = true) : slot.nullable = true := by
  obtain ⟨-, hnullable⟩ := h
  cases rule with
  | lenient => exact hnullable hvalue
  | exact => exact hnullable.symm.trans hvalue

/-- A function takes the values of a type. -/
def ConverterFn.Takes (f : ConverterFn) (rule : NullableRule) (target : TypeRef) : Prop :=
  rule.Flows target f.receiver

/-- Behind a function that takes a type, another one takes what it gives and gives the type. -/
def ConverterFn.LeadsBack (encoder : ConverterFn) (rule : NullableRule) (target : TypeRef)
    (decoder : ConverterFn) : Prop :=
  rule.Flows encoder.output decoder.receiver ∧ rule.Flows decoder.output target

namespace Registry

variable {r : Registry} {target : TypeRef} {declaration field : String} {encoder : ConverterFn}

theorem accepts_iff (rule : NullableRule) (slot value : Bool) :
    rule.accepts slot value = true ↔
      match rule with
      | .lenient => value = true → slot = true
      | .exact => value = slot := by
  cases rule <;> cases slot <;> cases value <;> decide

theorem flowsInto_iff {value slot : TypeRef} :
    r.flowsInto value slot = true ↔ r.rule.Flows value slot := by
  rw [flowsInto, Bool.and_eq_true, accepts_iff]
  rfl

theorem takes_iff (f : ConverterFn) :
    r.flowsInto target f.receiver = true ↔ f.Takes r.rule target :=
  flowsInto_iff

theorem leadsBack_iff (encoder f : ConverterFn) :
    (r.flowsInto f.output target && r.flowsInto encoder.output f.receiver) = true ↔
      encoder.LeadsBack r.rule target f := by
  rw [Bool.and_eq_true, flowsInto_iff, flowsInto_iff]
  exact And.comm

theorem encoderFor?_eq_some_iff :
    r.encoderFor? target = some encoder ↔ FirstOf (·.Takes r.rule target) r.functions encoder :=
  find?_eq_some_iff_firstOf takes_iff

theorem encoderFor?_eq_none_iff :
    r.encoderFor? target = none ↔ ∀ f ∈ r.functions, ¬ f.Takes r.rule target :=
  find?_eq_none_iff_forall takes_iff

theorem decoderFor?_eq_some_iff {decoder : ConverterFn} :
    r.decoderFor? target encoder = some decoder ↔
      FirstOf (encoder.LeadsBack r.rule target) r.functions decoder :=
  find?_eq_some_iff_firstOf (leadsBack_iff encoder)

theorem decoderFor?_eq_none_iff :
    r.decoderFor? target encoder = none ↔
      ∀ f ∈ r.functions, ¬ encoder.LeadsBack r.rule target f :=
  find?_eq_none_iff_forall (leadsBack_iff encoder)

theorem exists_decoderFor?_iff :
    (∃ decoder, r.decoderFor? target encoder = some decoder) ↔
      ∃ f ∈ r.functions, encoder.LeadsBack r.rule target f := by
  rw [← Option.isSome_iff_exists, decoderFor?, List.find?_isSome]
  simp only [leadsBack_iff]

/-- What comes of a pair that was found. It does not matter any more where the two were found. -/
def storedPair (declaration field : String) (encoder decoder : ConverterFn) :
    Except Fault ConverterPair :=
  match encoder.output.primitive? with
  | none =>
    .error (.unsupportedConverterType declaration field encoder.display encoder.output.display)
  | some kind =>
    if encoder.output.nullable && !kind.isExistenceChecked then
      .error (.nullableConverterType declaration field encoder.display encoder.output.display)
    else .ok ⟨encoder, decoder, kind⟩

/-- A pair is refused when what its encoder gives has no kind, or may be missing and is of a kind
for which the store does not tell that. -/
theorem storedPair_eq_error_iff {decoder : ConverterFn} {fault : Fault} :
    storedPair declaration field encoder decoder = .error fault ↔
      (encoder.output.primitive? = none ∧ fault =
        .unsupportedConverterType declaration field encoder.display encoder.output.display) ∨
      ∃ kind, encoder.output.primitive? = some kind ∧ kind.isExistenceChecked = false ∧
        encoder.output.nullable = true ∧ fault =
          .nullableConverterType declaration field encoder.display encoder.output.display := by
  unfold storedPair
  -- By the two tests of the pair, in their order.
  cases encoder.output.primitive? with
  | none =>
    constructor
    · intro h
      cases h
      exact .inl ⟨rfl, rfl⟩
    · rintro (⟨-, rfl⟩ | ⟨kind, hkind, -⟩)
      · rfl
      · cases hkind
  | some kind =>
    dsimp only
    split
    · rename_i hrefused
      rw [Bool.and_eq_true, Bool.not_eq_true'] at hrefused
      constructor
      · intro h
        cases h
        exact .inr ⟨kind, rfl, hrefused.2, hrefused.1, rfl⟩
      · rintro (⟨hnone, -⟩ | ⟨other, -, -, -, rfl⟩)
        · cases hnone
        · rfl
    · rename_i haccepted
      constructor
      · intro h
        cases h
      · rintro (⟨hnone, -⟩ | ⟨other, hother, hexists, hnullable, -⟩)
        · cases hnone
        · cases hother
          rw [hexists, hnullable] at haccepted
          exact absurd rfl haccepted

theorem find_of_no_encoder (h : r.encoderFor? target = none) :
    r.find target declaration field = .ok none := by
  unfold find
  rw [h]

theorem find_of_no_decoder (hencoder : r.encoderFor? target = some encoder)
    (h : r.decoderFor? target encoder = none) : r.find target declaration field = .ok none := by
  unfold find
  rw [hencoder]
  dsimp only
  rw [h]

theorem find_of_pair {decoder : ConverterFn} (hencoder : r.encoderFor? target = some encoder)
    (hdecoder : r.decoderFor? target encoder = some decoder) :
    r.find target declaration field =
      (storedPair declaration field encoder decoder).map some := by
  unfold find storedPair
  rw [hencoder]
  dsimp only
  rw [hdecoder]
  dsimp only
  cases encoder.output.primitive? with
  | none => rfl
  | some kind =>
    dsimp only
    split <;> rfl

/-- The search stops short of a pair, or finds one whatever comes of it. -/
theorem find_cases (r : Registry) (target : TypeRef) (declaration field : String) :
    (r.find target declaration field = .ok none ∧
      (r.encoderFor? target = none ∨
        ∃ encoder, r.encoderFor? target = some encoder ∧ r.decoderFor? target encoder = none)) ∨
    ∃ encoder decoder, r.encoderFor? target = some encoder ∧
      r.decoderFor? target encoder = some decoder ∧
      r.find target declaration field =
        (storedPair declaration field encoder decoder).map some := by
  cases hencoder : r.encoderFor? target with
  | none => exact .inl ⟨find_of_no_encoder hencoder, .inl rfl⟩
  | some encoder =>
    cases hdecoder : r.decoderFor? target encoder with
    | none => exact .inl ⟨find_of_no_decoder hencoder hdecoder, .inr ⟨encoder, rfl, hdecoder⟩⟩
    | some decoder => exact .inr ⟨encoder, decoder, rfl, hdecoder, find_of_pair hencoder hdecoder⟩

theorem find_eq_pair_iff {pair : ConverterPair} :
    r.find target declaration field = .ok (some pair) ↔
      r.encoderFor? target = some pair.encoder ∧
        r.decoderFor? target pair.encoder = some pair.decoder ∧
        pair.encoder.output.primitive? = some pair.primitive ∧
        (pair.nullableIntermediate = true → pair.primitive.isExistenceChecked = true) := by
  constructor
  · exact find_ok
  · rintro ⟨hencoder, hdecoder, hkind, hnullable⟩
    have haccepted :
        ¬ (pair.encoder.output.nullable && !pair.primitive.isExistenceChecked) = true := by
      rw [Bool.and_eq_true, Bool.not_eq_true']
      rintro ⟨hoptional, hexists⟩
      rw [hnullable hoptional] at hexists
      cases hexists
    rw [find_of_pair hencoder hdecoder, storedPair, hkind]
    dsimp only
    rw [if_neg haccepted]
    rfl

theorem find_eq_none_iff :
    r.find target declaration field = .ok none ↔
      r.encoderFor? target = none ∨
        ∃ encoder, r.encoderFor? target = some encoder ∧
          r.decoderFor? target encoder = none := by
  constructor
  · intro hfind
    rcases find_cases r target declaration field with ⟨-, hnone⟩ | ⟨encoder, decoder, -, -, hpair⟩
    · exact hnone
    -- A pair that was found is stored or refused, and never passed over.
    · rw [hpair] at hfind
      cases hstored : storedPair declaration field encoder decoder <;> rw [hstored] at hfind <;>
        cases hfind
  · rintro (hnone | ⟨encoder, hencoder, hnone⟩)
    · exact find_of_no_encoder hnone
    · exact find_of_no_decoder hencoder hnone

theorem find_eq_error_iff {fault : Fault} :
    r.find target declaration field = .error fault ↔
      ∃ encoder decoder, r.encoderFor? target = some encoder ∧
        r.decoderFor? target encoder = some decoder ∧
        storedPair declaration field encoder decoder = .error fault := by
  constructor
  · intro hfind
    rcases find_cases r target declaration field with
      ⟨hnone, -⟩ | ⟨encoder, decoder, hencoder, hdecoder, hpair⟩
    · cases hnone.symm.trans hfind
    · refine ⟨encoder, decoder, hencoder, hdecoder, ?_⟩
      rw [hpair] at hfind
      cases hstored : storedPair declaration field encoder decoder <;> rw [hstored] at hfind <;>
        cases hfind
      rfl
  · rintro ⟨encoder, decoder, hencoder, hdecoder, hstored⟩
    rw [find_of_pair hencoder hdecoder, hstored]
    rfl

/-- The kinds for which the store itself tells that an entry is missing. -/
theorem isExistenceChecked_iff (kind : Primitive) :
    kind.isExistenceChecked = true ↔ kind ∈ [.byteSequence, .text, .textSet] := by
  cases kind <;> decide

theorem not_isExistenceChecked_iff (kind : Primitive) :
    kind.isExistenceChecked = false ↔ kind ∈ [.boolean, .integer, .long, .float, .double] := by
  cases kind <;> decide

/-- The search for a pair among the functions of some sources, in order. A pair is found just when
it consists of the first function that takes the type and of the first one that leads back from it,
and what lies between the two has a kind and is optional only if it is bytes, a text or a text set.
There is none just when no function takes the type or none leads back from the first that does. In
the remaining cases the fault names the field and the first function that takes its type. -/
theorem find_first_pair (rule : NullableRule) (sources : List ConverterSource) (target : TypeRef)
    (declaration field : String) :
    let functions := sources.flatMap (·.functions)
    let found := (ofSources rule sources).find target declaration field
    (∀ pair, found = .ok (some pair) ↔
      FirstOf (·.Takes rule target) functions pair.encoder ∧
        FirstOf (pair.encoder.LeadsBack rule target) functions pair.decoder ∧
        pair.encoder.output.primitive? = some pair.primitive ∧
        (pair.nullableIntermediate = true → pair.primitive ∈ [.byteSequence, .text, .textSet])) ∧
    (found = .ok none ↔
      (∀ f ∈ functions, ¬ f.Takes rule target) ∨
        ∃ encoder, FirstOf (·.Takes rule target) functions encoder ∧
          ∀ f ∈ functions, ¬ encoder.LeadsBack rule target f) ∧
    ∀ fault, found = .error fault ↔
      ∃ encoder, FirstOf (·.Takes rule target) functions encoder ∧
        (∃ f ∈ functions, encoder.LeadsBack rule target f) ∧
        ((encoder.output.primitive? = none ∧ fault =
            .unsupportedConverterType declaration field encoder.display encoder.output.display) ∨
          ∃ kind ∈ [Primitive.boolean, .integer, .long, .float, .double],
            encoder.output.primitive? = some kind ∧ encoder.output.nullable = true ∧ fault =
              .nullableConverterType declaration field encoder.display encoder.output.display) := by
  intro functions found
  refine ⟨fun pair => ?_, ?_, fun fault => ?_⟩
  · rw [find_eq_pair_iff, encoderFor?_eq_some_iff, decoderFor?_eq_some_iff,
      isExistenceChecked_iff]
    rfl
  · rw [find_eq_none_iff, encoderFor?_eq_none_iff]
    simp only [encoderFor?_eq_some_iff, decoderFor?_eq_none_iff]
    rfl
  · rw [find_eq_error_iff]
    constructor
    · rintro ⟨encoder, decoder, hencoder, hdecoder, hstored⟩
      refine ⟨encoder, encoderFor?_eq_some_iff.1 hencoder,
        exists_decoderFor?_iff.1 ⟨decoder, hdecoder⟩, ?_⟩
      rcases storedPair_eq_error_iff.1 hstored with hnone | ⟨kind, hkind, hexists, hrest⟩
      · exact .inl hnone
      · exact .inr ⟨kind, (not_isExistenceChecked_iff kind).1 hexists, hkind, hrest⟩
    · rintro ⟨encoder, hfirst, hback, hrefused⟩
      -- Some function leads back, so a first one does; which one it is does not matter here.
      have hexists : ∃ decoder,
          (ofSources rule sources).decoderFor? target encoder = some decoder :=
        exists_decoderFor?_iff.2 hback
      obtain ⟨decoder, hdecoder⟩ := hexists
      refine ⟨encoder, decoder, encoderFor?_eq_some_iff.2 hfirst, hdecoder,
        storedPair_eq_error_iff.2 ?_⟩
      rcases hrefused with hnone | ⟨kind, hmem, hkind, hrest⟩
      · exact .inl hnone
      · exact .inr ⟨kind, hkind, (not_isExistenceChecked_iff kind).2 hmem, hrest⟩

end Registry

end TypedPreferences
