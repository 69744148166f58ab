import TypedPreferences.Plan.Step

/-! The kind of each field, and from it the steps of reading and writing. -/

namespace TypedPreferences

/-- What is taken when a value is missing: the default is written if the field asks for it, then
returned. -/
def absentBranch (persist : Bool) (guard : PersistGuard) : List AbsentStep :=
  (if persist then [.persistDefault guard] else []) ++ [.returnDefault]

/-- Reading a raw value that is not optional in the store. A truth value has no spare value, so its
key is looked up first. -/
def readPresent (kind : Primitive) (branch : List AbsentStep) : List DecodeStep :=
  if kind.isExistenceChecked then [.read (.existence kind), .onAbsent .noneValue branch]
  else if kind.usesSentinel then [.read (.scalar kind), .onAbsent .sentinel branch]
  else [.onAbsent .keyMissing branch, .read (.scalar kind)]

def readOptional (raw : Read) (persist nullable : Bool) : List DecodeStep :=
  let guard := if nullable then PersistGuard.defaultPresent else .always
  [.read raw, .onAbsent .noneValue (absentBranch persist guard), .produce .value nullable]

def decodePrimitive (kind : Primitive) (persist nullable : Bool) : List DecodeStep :=
  let product := if kind = .textSet then Product.collectSet else .value
  let read :=
    -- Kinds whose absence the store tells need no carrier for an optional value.
    if kind.isExistenceChecked || !nullable then
      let guard := if kind.usesSentinel then PersistGuard.defaultNotSentinel else .always
      readPresent kind (absentBranch persist guard)
    else [.read (.nullableScalar kind), .onAbsent .noneValue (absentBranch persist .always)]
  read ++ [.produce product nullable]

def decodeConverted (pair : ConverterPair) (persist nullable : Bool) : List DecodeStep :=
  let decoder := pair.decoder
  let call : DecodeCall :=
    ⟨decoder.path, decoder.receiver.byRef, decoder.receiver.nullable, pair.primitive = .textSet⟩
  -- The default is written through the encoder, so even a reserved number may be written.
  readPresent pair.primitive (absentBranch persist .always) ++
    [.produce (.decoded call) (nullable && !decoder.output.nullable)]

def decodeSteps (field : Field) : FieldKind → List DecodeStep
  | .ordinal => readOptional .ordinal field.persistDefault field.type.nullable
  | .structured => readOptional .marshal field.persistDefault field.type.nullable
  | .primitive kind => decodePrimitive kind field.persistDefault field.type.nullable
  | .converted pair => decodeConverted pair field.persistDefault field.type.nullable

def writePrimitive (kind : Primitive) (nullable : Bool) : Write :=
  if kind.isExistenceChecked then .existence kind nullable
  else if nullable then .nullableScalar kind
  else .scalar kind

def encodeConverted (pair : ConverterPair) (nullable : Bool) : List EncodeStep :=
  let receiver := pair.encoder.receiver
  let write :=
    if pair.primitive.isExistenceChecked then
      Write.existence pair.primitive pair.nullableIntermediate
    else .scalar pair.primitive
  [.convert ⟨pair.encoder.path, receiver.byRef, receiver.nullable && !nullable⟩, .write write]

def encodeSteps (field : Field) : FieldKind → List EncodeStep
  | .ordinal => [.write (.ordinal field.type.nullable)]
  | .structured => [.write (.marshal field.type.nullable)]
  | .primitive kind => [.write (writePrimitive kind field.type.nullable)]
  | .converted pair => encodeConverted pair field.type.nullable

/-- What planning looks types up in: the enumerations, the structured types and the converters. -/
structure Context where
  enums : List String
  structured : List String
  registry : Registry

namespace Context

/-- The kind of a field. The field must not be a run of elements, must have a default, must be owned
and resolved, in this order. -/
def kindOf (c : Context) (declaration : String) (field : Field) : Except Fault FieldKind :=
  if field.type.isVariadic then .error (.vararg declaration field.name)
  else if field.default.isNone then .error (.missingDefault declaration field.name)
  else if field.type.byRef then .error (.borrowedField declaration field.name field.type.display)
  else if field.type.isUnresolved then
    .error (.unresolvedType declaration field.name field.type.display)
  else
    match field.type.primitive? with
    | some kind => .ok (.primitive kind)
    | none =>
      -- Enumerations and structured types are known by name, and have no type arguments.
      let plain := if field.type.args.isEmpty then field.type.name? else none
      if plain.any c.enums.contains then .ok .ordinal
      else if plain.any c.structured.contains then .ok .structured
      else
        match c.registry.find field.type declaration field.name with
        | .error fault => .error fault
        | .ok (some pair) => .ok (.converted pair)
        | .ok none => .error (.unsupportedType declaration field.name field.type.display)

def planOf (c : Context) (declaration : String) (field : Field) :
    Except Fault (FieldKind × FieldPlan) :=
  (c.kindOf declaration field).map fun kind =>
    (kind, ⟨field, decodeSteps field kind, encodeSteps field kind⟩)

def planField (c : Context) (declaration : String) (field : Field) :
    Work (FieldKind × FieldPlan) := do
  let (kind, plan) ← c.planOf declaration field
  Work.report (.plannedField declaration field.name kind.label field.persistDefault)
  return (kind, plan)

def planFields (c : Context) (declaration : String) (seen : List String) :
    List Field → Work (List (FieldKind × FieldPlan))
  | [] => return []
  | field :: rest => do
    if seen.contains field.name then throw (.duplicateField declaration field.name)
    -- The field counts as seen for those after it.
    let plan ← c.planField declaration field
    return plan :: (← c.planFields declaration (field.name :: seen) rest)

/-- Plans the fields of a declaration in order, up to the first that cannot be planned or repeats a
name. -/
def planDeclaration (c : Context) (d : Declaration) : Work (List (FieldKind × FieldPlan)) :=
  c.planFields d.name [] d.fields

end Context

end TypedPreferences
