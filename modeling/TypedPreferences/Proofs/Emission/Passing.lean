import TypedPreferences.Proofs.Conversion.Lookup
import TypedPreferences.Proofs.Emission.Members
import TypedPreferences.Proofs.Emission.Passed
import TypedPreferences.Proofs.Plan.Shape

/-! The source that is generated for a converted field: both converter functions are given their
arguments just as they declare their parameters, and what they give is treated as an option just
when it is one. -/

namespace TypedPreferences.Emission

open Source Passed

/-- The type of a sorted set of texts. -/
def textSets (runtime : List Token) : List Token :=
  fill [("rt", runtime)] "$rt::__private::BTreeSet<::std::string::String>"

/-- The statement that rebinds `value`. -/
def bindValue (expression : List Token) : List Token :=
  [.ident "let", .ident "value", .punct '=' false] ++ expression ++ [.punct ';' false]

/-- The statement that writes a value of a kind under the key of a field. -/
def storeValue (field : Field) (kind : Primitive) (expression : List Token) : List Token :=
  [.ident "store", .punct '.' false, .ident ("encode" ++ "_" ++ kind.suffix),
    .group .paren (textLiteral field.name ++ [.punct ',' false] ++ expression), .punct ';' false]

section Templates

variable (holes : Holes)

theorem fill_value : fill holes "value" = [.ident "value"] :=
  fill_of_tokens? holes [.ident "value"] rfl

theorem fill_cloned : fill holes "value.clone()" = .ident "value" :: method "clone" [] :=
  fill_of_tokens? holes [.ident "value", .punct '.' false, .ident "clone", .group .paren []] rfl

theorem fill_wrapped_cloned : fill holes "$some(value.clone())" =
    (holes.lookup "some").getD [] ++
      Token.parens (.ident "value" :: method "clone" []) := by
  rw [fill_of_tokens? holes [.punct '$' false, .ident "some", .group .paren [.ident "value",
    .punct '.' false, .ident "clone", .group .paren []]] rfl]
  simp [fillTokens, fillToken, Token.parens, method]

theorem fill_referred_cloned : fill holes "&$some(value.clone())" =
    .punct '&' false :: ((holes.lookup "some").getD [] ++
      Token.parens (.ident "value" :: method "clone" [])) := by
  rw [fill_of_tokens? holes [.punct '&' true, .punct '$' false, .ident "some", .group .paren
    [.ident "value", .punct '.' false, .ident "clone", .group .paren []]] rfl]
  simp [fillTokens, fillToken, isPair, Token.parens, method]

theorem fill_bind : fill holes "let value = $path($arg);" =
    bindValue ((holes.lookup "path").getD [] ++ Token.parens ((holes.lookup "arg").getD [])) := by
  rw [fill_of_tokens? holes [.ident "let", .ident "value", .punct '=' false, .punct '$' false,
    .ident "path", .group .paren [.punct '$' false, .ident "arg"], .punct ';' false] rfl]
  simp [fillTokens, fillToken, bindValue, Token.parens]

theorem fill_collected : fill holes "value.into_iter().collect()" =
    .ident "value" :: (method "into_iter" [] ++ method "collect" []) :=
  fill_of_tokens? holes [.ident "value", .punct '.' false, .ident "into_iter", .group .paren [],
    .punct '.' false, .ident "collect", .group .paren []] rfl

theorem fill_wrapped {cs : List Char} (name : String)
    (h : tokensIn? cs = some [.punct '$' false, .ident "some", .group .paren
      [.punct '$' false, .ident name]]) :
    fill holes (String.ofList cs) =
      (holes.lookup "some").getD [] ++ Token.parens ((holes.lookup name).getD []) := by
  rw [fill_of_tokens? holes _ h]
  simp [fillTokens, fillToken, Token.parens]

theorem fill_viewed {cs : List Char} (name : String)
    (h : tokensIn? cs = some [.punct '$' false, .ident "some", .group .paren
      [.ident "value", .punct '.' false, .ident name, .group .paren []]]) :
    fill holes (String.ofList cs) = (holes.lookup "some").getD [] ++
      Token.parens (.ident "value" :: method name []) := by
  rw [fill_of_tokens? holes _ h]
  simp [fillTokens, fillToken, Token.parens, method]

theorem fill_viewedInside : fill holes "value.as_deref()" =
    .ident "value" :: method "as_deref" [] :=
  fill_of_tokens? holes [.ident "value", .punct '.' false, .ident "as_deref", .group .paren []] rfl

theorem fill_sorted : fill holes "$some(&value.iter().cloned().collect::<$texts>())" =
    (holes.lookup "some").getD [] ++ Token.parens (.punct '&' false :: .ident "value" ::
      sorting ((holes.lookup "texts").getD [])) := by
  rw [fill_of_tokens? holes [.punct '$' false, .ident "some", .group .paren [.punct '&' false,
    .ident "value", .punct '.' false, .ident "iter", .group .paren [], .punct '.' false,
    .ident "cloned", .group .paren [], .punct '.' false, .ident "collect", .punct ':' true,
    .punct ':' true, .punct '<' true, .punct '$' false, .ident "texts", .punct '>' false,
    .group .paren []]] rfl]
  simp [fillTokens, fillToken, isPair, Token.parens, method, sorting]

theorem fill_sortedInside : fill holes
    "value.as_ref().map(|set| set.iter().cloned().collect::<$texts>()).as_ref()" =
      .ident "value" :: (method "as_ref" [] ++
        method "map" ([.punct '|' false, .ident "set", .punct '|' false, .ident "set"] ++
          sorting ((holes.lookup "texts").getD [])) ++ method "as_ref" []) := by
  rw [fill_of_tokens? holes [.ident "value", .punct '.' false, .ident "as_ref", .group .paren [],
    .punct '.' false, .ident "map", .group .paren [.punct '|' false, .ident "set", .punct '|' false,
      .ident "set", .punct '.' false, .ident "iter", .group .paren [], .punct '.' false,
      .ident "cloned", .group .paren [], .punct '.' false, .ident "collect", .punct ':' true,
      .punct ':' true, .punct '<' true, .punct '$' false, .ident "texts", .punct '>' false,
      .group .paren []], .punct '.' false, .ident "as_ref", .group .paren []] rfl]
  simp [fillTokens, fillToken, isPair, method, sorting]

theorem fill_store_value : fill holes "store.$method($key, value);" =
    [.ident "store", .punct '.' false] ++ (holes.lookup "method").getD [] ++
      [.group .paren ((holes.lookup "key").getD [] ++ [.punct ',' false, .ident "value"]),
        .punct ';' false] := by
  rw [fill_of_tokens? holes [.ident "store", .punct '.' true, .punct '$' false, .ident "method",
    .group .paren [.punct '$' false, .ident "key", .punct ',' false, .ident "value"],
    .punct ';' false] rfl]
  simp [fillTokens, fillToken, isPair]

theorem fill_store : fill holes "store.$method($key, $value);" =
    [.ident "store", .punct '.' false] ++ (holes.lookup "method").getD [] ++
      [.group .paren ((holes.lookup "key").getD [] ++ [.punct ',' false] ++
        (holes.lookup "value").getD []), .punct ';' false] := by
  rw [fill_of_tokens? holes [.ident "store", .punct '.' true, .punct '$' false, .ident "method",
    .group .paren [.punct '$' false, .ident "key", .punct ',' false, .punct '$' false,
      .ident "value"], .punct ';' false] rfl]
  simp [fillTokens, fillToken, isPair]

end Templates

section Statements

variable (runtime : List Token) (field : Field)

theorem convertStatement_eq (call : EncodeCall) {f : ConverterFn} (hpath : f.path = call.path) :
    convertStatement (fieldHoles runtime field) call =
      bindValue ((called f (toEncoder call)).tokens (textSets runtime)) := by
  obtain ⟨path, byRef, wrapSome⟩ := call
  have hsome : ((fieldHoles runtime field).lookup "some").getD [] =
      fill [] "::core::option::Option::Some" := rfl
  unfold convertStatement
  rw [fill_bind, tokens, hpath]
  -- One template for each way in which the two flags may stand.
  cases byRef with
  | false =>
    cases wrapSome with
    | false =>
      dsimp only
      rw [fill_cloned]
      rfl
    | true =>
      dsimp only
      rw [fill_wrapped_cloned, hsome]
      rfl
  | true =>
    cases wrapSome with
    | false =>
      dsimp only
      rw [fill_value]
      rfl
    | true =>
      dsimp only
      rw [fill_referred_cloned, hsome]
      rfl

theorem existenceArg_eq {kind : Primitive} (h : kind.isExistenceChecked = true) (nullable : Bool) :
    existenceArg (fieldHoles runtime field) kind nullable =
      (toStore kind nullable).tokens (textSets runtime) := by
  cases nullable with
  | false =>
    cases kind with
    | byteSequence => exact fill_viewed _ "as_slice" rfl
    | text => exact fill_viewed _ "as_str" rfl
    | textSet => exact fill_sorted _
    | _ => cases h
  | true =>
    cases kind with
    | byteSequence => exact fill_viewedInside _
    | text => exact fill_viewedInside _
    | textSet => exact fill_sortedInside _
    | _ => cases h

theorem writeStatement_eq {kind : Primitive} {nullable : Bool}
    (hstorable : nullable = true → kind.isExistenceChecked = true) :
    writeStatement (fieldHoles runtime field) false
        (if kind.isExistenceChecked then .existence kind nullable else .scalar kind) =
      storeValue field kind ((toStore kind nullable).tokens (textSets runtime)) := by
  cases hkind : kind.isExistenceChecked with
  | true =>
    rw [if_pos rfl, writeStatement, fill_store, ← existenceArg_eq runtime field hkind nullable]
    rfl
  | false =>
    -- For the other kinds an optional value was refused, so the value itself is written.
    have hvalue : toStore kind nullable = .value := by
      cases nullable with
      | false => cases kind <;> first | rfl | cases hkind
      | true => exact absurd (hstorable rfl) (by rw [hkind]; decide)
    rw [if_neg Bool.false_ne_true, writeStatement, if_neg Bool.false_ne_true, fill_store_value,
      hvalue]
    rfl

theorem decodeStatement_eq (call : DecodeCall) (wraps : Bool) {f : ConverterFn}
    (hpath : f.path = call.path) :
    decodeStatement (fieldHoles runtime field) (.produce (.decoded call) wraps) =
      (if wraps then wrapped (called f (toDecoder call)) else called f (toDecoder call)).tokens
        (textSets runtime) := by
  have hresult : productExpr (fieldHoles runtime field) (.decoded call) =
      (called f (toDecoder call)).tokens (textSets runtime) := by
    obtain ⟨path, byRef, optional, collectSet⟩ := call
    unfold productExpr
    dsimp only
    -- The argument is put together from the inside: the set, then the option, then the reference.
    have hvalue : fill (fieldHoles runtime field)
        (if collectSet then "value.into_iter().collect()" else "value") =
          (if collectSet then collected .value else .value).tokens (textSets runtime) := by
      cases collectSet with
      | false => exact fill_value _
      | true => exact fill_collected _
    rw [hvalue, tokens, hpath, toDecoder]
    dsimp only
    generalize (if collectSet then collected .value else .value) = argument
    have hargument : (if optional = true then
        fill (("arg", argument.tokens (textSets runtime)) :: fieldHoles runtime field) "$some($arg)"
          else argument.tokens (textSets runtime)) =
        (if optional then wrapped argument else argument).tokens (textSets runtime) := by
      cases optional with
      | false => rfl
      | true => exact fill_wrapped _ "arg" rfl
    rw [hargument]
    cases byRef with
    | false => rfl
    | true => rfl
  unfold decodeStatement
  dsimp only
  rw [hresult]
  cases wraps with
  | false => rfl
  | true => exact fill_wrapped _ "value" rfl

end Statements

/-- How a value that was read is held. -/
def readHolding : Read → Holding
  | .scalar _ => .itself
  | .existence _ | .ordinal | .marshal | .nullableScalar _ => .optional .itself

/-- How `value` is held after a step of a decode function that does not return. A check for a
missing value unwraps an option, and a reserved number is looked for only in a value itself. -/
def heldAfter (held : Option Holding) : DecodeStep → Option Holding
  | .read raw => some (readHolding raw)
  | .onAbsent .keyMissing _ => held
  | .onAbsent .sentinel _ => if held = some .itself then held else none
  | .onAbsent .noneValue _ =>
    match held with
    | some (.optional inner) => some inner
    | _ => none
  | .produce _ _ => none

/-- A value that is there is itself once it was read and checked, in whatever way it is kept. -/
theorem foldl_heldAfter_checkedRead {raw : Read} {check : AbsenceCheck} {written : Write}
    (h : Kept raw check written) (branch : List AbsentStep) :
    (checkedRead raw check branch).foldl heldAfter none = some .itself := by
  cases h with
  | number _ => rfl
  | truth => rfl
  | existence _ _ => rfl
  | ordinal _ => rfl
  | marshal _ => rfl
  | carried _ => rfl

/-- The encode function of a field, in which `value` is a reference to the value of the field, calls
an encoder and then writes what the encoder gave. The encoder is given just what it takes, and what
is written suits the store just for a value that is an option when what the encoder gives is one. -/
structure EncodesBy (runtime : List Token) (field : Field) (pair : ConverterPair)
    (steps : List EncodeStep) (argument stored : Passed) : Prop where
  statements : encodeStatements (fieldHoles runtime field) true steps =
    bindValue ((called pair.encoder argument).tokens (textSets runtime)) ++
      storeValue field pair.primitive (stored.tokens (textSets runtime))
  given : ∀ h, Passed.Held (.borrowed field.type.holding) argument h ↔
    h = pair.encoder.receiver.holding
  written : ∀ v, (∃ h, Passed.Held v stored h ∧ h.target = slot pair.primitive) ↔
    v.target = pair.encoder.output.content
  flat : Flat (.borrowed field.type.holding) (called pair.encoder argument) ∧
    Flat pair.encoder.output.holding stored

/-- The decode function of a field ends with an expression around a stored value, which calls a
decoder. The decoder is given what it takes, and the expression is optional just when the field is.
-/
structure DecodesBy (runtime : List Token) (field : Field) (pair : ConverterPair)
    (steps : List DecodeStep) (argument product : Passed) : Prop where
  statements : ∃ before last, steps = before ++ [last] ∧
    before.foldl heldAfter none = some .itself ∧
    decodeStatement (fieldHoles runtime field) last = product.tokens (textSets runtime)
  call : product = called pair.decoder argument ∨ product = wrapped (called pair.decoder argument)
  given : ∀ h, Passed.Held .itself argument h ↔ h = pair.decoder.receiver.holding
  produced : ∃ h, Passed.Held .itself product h ∧ h.options = field.type.holding.options ∧
    (pair.decoder.output.byRef = false → h = field.type.holding)
  flat : Flat .itself product

section Converted

variable {rule : NullableRule} {field : Field} {pair : ConverterPair}
  (howned : field.type.byRef = false) (runtime : List Token)

include howned

theorem encodesBy_of_takes (htakes : pair.encoder.Takes rule field.type)
    (hstorable : pair.nullableIntermediate = true → pair.primitive.isExistenceChecked = true) :
    EncodesBy runtime field pair (encodeConverted pair field.type.nullable)
      (toEncoder ⟨pair.encoder.path, pair.encoder.receiver.byRef,
        pair.encoder.receiver.nullable && !field.type.nullable⟩)
      (toStore pair.primitive pair.nullableIntermediate) := by
  have hargument := held_toEncoder howned htakes.nullable_le pair.encoder.path
  have hstored := held_toStore_iff hstorable
  refine ⟨?_, hargument.iff_eq, hstored, ?_, ?_⟩
  · rw [encodeConverted, encodeStatements, encodeStatements, encodeStatements, List.append_nil,
      convertStatement_eq runtime field _ rfl, writeStatement_eq runtime field hstorable]
  · have hvalue : (Holding.borrowed field.type.holding).options ≤ 1 :=
      TypeRef.options_holding_le_one _
    exact ((Passed.Held.called hargument).flat hvalue).2
  -- What the encoder gives is held as its type tells, so it is written as it has to be.
  · obtain ⟨h, hheld, -⟩ := (hstored pair.encoder.output.holding).2 (TypeRef.target_holding _)
    exact (hheld.flat (TypeRef.options_holding_le_one _)).2

theorem decodesBy_of_leadsBack (hback : pair.encoder.LeadsBack rule field.type pair.decoder) :
    ∃ argument product, DecodesBy runtime field pair
      (decodeConverted pair field.persistDefault field.type.nullable) argument product := by
  obtain ⟨raw, check, hkept, hread⟩ :=
    exists_kept_readPresent pair.primitive pair.nullableIntermediate
  have hargument := held_toDecoder pair.decoder.receiver pair.decoder.path
    (pair.primitive = .textSet)
  obtain ⟨h, hproduct, hoptions, hholding⟩ := exists_held_product howned hback.2.nullable_le
    (Passed.Held.called hargument)
  have hvalue : Holding.itself.options ≤ 1 := by decide
  refine ⟨_, _, ?_, ?_, hargument.iff_eq, ⟨h, hproduct, hoptions, hholding⟩,
    (hproduct.flat hvalue).2⟩
  · refine ⟨_, _, by rw [decodeConverted, hread], foldl_heldAfter_checkedRead hkept _, ?_⟩
    exact decodeStatement_eq runtime field _ _ rfl
  · split
    · exact .inr rfl
    · exact .inl rfl

end Converted

end TypedPreferences.Emission

namespace TypedPreferences.Context

open Emission Source

variable {c : Context} {declaration : String} {field : Field}

theorem byRef_of_kindOf {kind : FieldKind} (h : c.kindOf declaration field = .ok kind) :
    field.type.byRef = false := by
  cases hbyRef : field.type.byRef with
  | false => rfl
  | true =>
    unfold kindOf at h
    rw [if_pos hbyRef] at h
    split at h
    · cases h
    · split at h <;> cases h

/-- The source for a converted field calls its encoder and its decoder with what they take and
treats what they give as it is given, and never makes an option of an option. How the types that
this goes by are held is how they are written. -/
theorem calls_line_up_of_planField {pair : ConverterPair} {plan : FieldPlan} (runtime : List Token)
    (h : (c.planField declaration field).perform.1 = .ok (.converted pair, plan)) :
    (∃ argument stored, EncodesBy runtime field pair plan.encode argument stored) ∧
      (∃ argument product, DecodesBy runtime field pair plan.decode argument product) ∧
      ∀ t ∈ [field.type, pair.encoder.receiver, pair.encoder.output, pair.decoder.receiver,
        pair.decoder.output], ∀ ty, t = .ofTy ty → ty.HeldAs t.holding := by
  obtain ⟨hkind, rfl⟩ := planOf_eq_ok.1 (planOf_of_planField h)
  have howned : field.type.byRef = false := byRef_of_kindOf hkind
  obtain ⟨hencoder, hdecoder, -, hstorable⟩ := Registry.find_ok (find_of_kindOf hkind)
  obtain ⟨htakes, -⟩ := Registry.encoderFor?_eq_some_iff.1 hencoder
  obtain ⟨hback, -⟩ := Registry.decoderFor?_eq_some_iff.1 hdecoder
  refine ⟨⟨_, _, encodesBy_of_takes howned runtime htakes hstorable⟩,
    decodesBy_of_leadsBack howned runtime hback, ?_⟩
  -- Each of the types shares its base with another one, so all of them are resolved.
  obtain ⟨hfield, hreceiver⟩ := TypeRef.resolved_of_sameBase htakes.1
  obtain ⟨houtput, hreceiver'⟩ := TypeRef.resolved_of_sameBase hback.1.1
  obtain ⟨houtput', -⟩ := TypeRef.resolved_of_sameBase hback.2.1
  rintro t ht ty rfl
  apply heldAs_ofTy
  simp only [List.mem_cons, List.not_mem_nil, or_false] at ht
  rcases ht with ht | ht | ht | ht | ht
  · rw [ht]
    exact hfield
  · rw [ht]
    exact hreceiver
  · rw [ht]
    exact houtput
  · rw [ht]
    exact hreceiver'
  · rw [ht]
    exact houtput'

section Tint

open Samples

/-- A field that is never missing, though both of its converter functions take options. -/
def tintField : Field := ⟨"tint", .ofTy (plain "Tint"), some [.ident "Tint"], true⟩

theorem calls_line_up_of_planField_tint : ∃ pair plan,
    (edgeConverted.context.planField "EdgeConverted" tintField).perform.1 =
        .ok (.converted pair, plan) ∧
      tintField.type.holding = .itself ∧ pair.encoder.receiver.holding = .optional .itself ∧
      pair.encoder.output.holding = .optional .itself ∧
      pair.decoder.receiver.holding = .optional .itself ∧ pair.decoder.output.holding = .itself ∧
      (∃ argument stored, EncodesBy [] tintField pair plan.encode argument stored) ∧
      (∃ argument product, DecodesBy [] tintField pair plan.decode argument product) ∧
      ∀ t ∈ [tintField.type, pair.encoder.receiver, pair.encoder.output, pair.decoder.receiver,
        pair.decoder.output], ∀ ty, t = .ofTy ty → ty.HeldAs t.holding := by
  have hplanned : ∃ pair plan,
      (edgeConverted.context.planField "EdgeConverted" tintField).perform.1 =
          .ok (.converted pair, plan) ∧
        pair.encoder.receiver.holding = .optional .itself ∧
        pair.encoder.output.holding = .optional .itself ∧
        pair.decoder.receiver.holding = .optional .itself ∧ pair.decoder.output.holding = .itself :=
    ⟨_, _, rfl, rfl, rfl, rfl, rfl⟩
  obtain ⟨pair, plan, hplan, hreceiver, houtput, hreceiver', houtput'⟩ := hplanned
  exact ⟨pair, plan, hplan, rfl, hreceiver, houtput, hreceiver', houtput',
    calls_line_up_of_planField [] hplan⟩

end Tint

end TypedPreferences.Context
