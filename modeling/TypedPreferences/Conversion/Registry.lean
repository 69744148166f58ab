import TypedPreferences.Declared.Event
import TypedPreferences.Declared.Primitive

/-! Converter functions and the choice of a pair of them for a type: the first encoder that takes
the type, and the first decoder that takes what the encoder gives and gives the type. -/

namespace TypedPreferences

open Source

/-- How nullability counts when a value is passed on. -/
inductive NullableRule where
  -- A value may be passed where an optional one is expected.
  | lenient
  -- Both sides are optional or neither is.
  | exact
deriving DecidableEq, Repr, Inhabited

def NullableRule.accepts (rule : NullableRule) (slot value : Bool) : Bool :=
  match rule with
  | lenient => slot || !value
  | exact => slot == value

/-- A function that takes one value to another: how it is called, how it is shown, what it takes and
what it gives. -/
structure ConverterFn where
  path : NamePath
  display : String
  receiver : TypeRef
  output : TypeRef
deriving Inhabited

/-- The functions of one module or implementation. -/
structure ConverterSource where
  name : String
  functions : List ConverterFn
deriving Inhabited

/-- An encoder and a decoder for one type, and the kind in which the value between them is stored.
-/
structure ConverterPair where
  encoder : ConverterFn
  decoder : ConverterFn
  primitive : Primitive
deriving Inhabited

def ConverterPair.nullableIntermediate (pair : ConverterPair) : Bool :=
  pair.encoder.output.nullable

/-- Converter functions in order, and the rule by which values are passed to them. -/
structure Registry where
  rule : NullableRule
  functions : List ConverterFn

namespace Registry

def ofSources (rule : NullableRule) (sources : List ConverterSource) : Registry :=
  ⟨rule, sources.flatMap (·.functions)⟩

def flowsInto (r : Registry) (value slot : TypeRef) : Bool :=
  value.sameBase slot && r.rule.accepts slot.nullable value.nullable

def encoderFor? (r : Registry) (target : TypeRef) : Option ConverterFn :=
  r.functions.find? fun f => r.flowsInto target f.receiver

def decoderFor? (r : Registry) (target : TypeRef) (encoder : ConverterFn) : Option ConverterFn :=
  r.functions.find? fun f => r.flowsInto f.output target && r.flowsInto encoder.output f.receiver

/-- The pair for the type of a field; none when no encoder or no decoder fits. The value between the
two must be storable, and may be missing only where the store tells that an entry is missing. -/
def find (r : Registry) (target : TypeRef) (declaration field : String) :
    Except Fault (Option ConverterPair) :=
  match r.encoderFor? target with
  | none => .ok none
  | some encoder =>
    match r.decoderFor? target encoder with
    | none => .ok none
    | some decoder =>
      -- Only the pair that was chosen is checked; no other pair is tried after it.
      match encoder.output.primitive? with
      | none =>
        .error (.unsupportedConverterType declaration field encoder.display encoder.output.display)
      | some primitive =>
        if encoder.output.nullable && !primitive.isExistenceChecked then
          .error (.nullableConverterType declaration field encoder.display encoder.output.display)
        else
          .ok (some ⟨encoder, decoder, primitive⟩)

end Registry

end TypedPreferences
