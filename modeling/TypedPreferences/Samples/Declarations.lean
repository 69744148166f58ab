import TypedPreferences.Fields.Layout
import TypedPreferences.Samples.Functions
import TypedPreferences.Samples.Structures

/-! Sample declarations: every kind of field, plain and optional, and fields that are stored through
converter functions. -/

namespace TypedPreferences.Samples

open Source

/-- A field of a sample: its name, its type, whether its default is written to the store, and the
default. -/
structure SampleField where
  name : String
  type : Ty
  persist : Bool
  default : Datum Foreign

/-- The field as it is declared. Its default is known by its value, so the tokens are left out. -/
def SampleField.declared (f : SampleField) : Field :=
  ⟨f.name, .ofTy f.type, some [], f.persist⟩

/-- A sample: a declaration, the functions around it, and the names of its enumerations and
structured types. -/
structure Sample where
  name : String
  id : String
  module : List String
  enums : List String
  structured : List String
  functions : List Function
  fields : List SampleField

namespace Sample

def declaration (s : Sample) : Declaration :=
  ⟨s.name, s.id, s.module, s.fields.map (·.declared)⟩

def context (s : Sample) : Context :=
  ⟨s.enums, s.structured, ⟨.lenient, s.functions.map (·.declared)⟩⟩

def meaning (s : Sample) : Meaning Foreign where
  ordinals
    | "Level" => Level.ordinals
    | "Mode" => modeOrdinals
    | _ => ⟨[]⟩
  structured
    | "Payload" => payload
    | "Note" => note
    | _ => default
  call path := ((s.functions.find? (·.name == path.name)).map (·.run)).getD fun d => d
  foreignEquals := Foreign.equals

/-- The plans of the fields, none when the declaration cannot be planned. -/
def plans (s : Sample) : List FieldPlan :=
  match (s.context.planDeclaration s.declaration).perform.1 with
  | .ok plans => plans.map (·.2)
  | .error _ => []

def layout (s : Sample) : Layout Foreign where
  id := s.id
  meaning := s.meaning
  fields := s.plans.zipWith (fun p f => ⟨p, f.default⟩) s.fields

end Sample

def value (kind : Primitive) (v : kind.Value) : Datum Foreign := .stored ⟨kind, v⟩

def given (kind : Primitive) (v : kind.Value) : Datum Foreign := .present (.stored ⟨kind, v⟩)

def wrapping (kind : Primitive) (v : kind.Value) : Datum Foreign := .foreign (.wrapped ⟨kind, v⟩)

def hole : Binary32 := ⟨0x7fc55a5a⟩

def payloadOf (name : String) (weight : Nat) : Packed.Tree :=
  .record [("name", .text name), ("weight", .int weight)]

def noteOf (text : String) (stars : Option Int) (tags : List String) : Packed.Tree :=
  let stars := match stars with
    | some n => Packed.Tree.given (.int n)
    | none => .missing
  .record [("text", .text text), ("stars", stars), ("tags", .list (tags.map .text))]

def primitiveData : Sample where
  name := "PrimitiveData"
  id := "primitive"
  module := ["model", "primitive"]
  enums := ["Level"]
  structured := ["Payload"]
  functions := modelFunctions
  fields := [⟨"flag", plain "bool", false, value .boolean true⟩,
    ⟨"count", plain "i32", true, value .integer (42 : Int32)⟩,
    ⟨"total", plain "i64", false, value .long (7000000000 : Int64)⟩,
    ⟨"ratio", plain "f32", false, value .float ⟨0x3fc00000⟩⟩,
    ⟨"precise", plain "f64", true, value .double ⟨0x4002000000000000⟩⟩,
    ⟨"blob", bytes, false, value .byteSequence [1, 2, 3]⟩,
    ⟨"label", plain "String", true, value .text "hello"⟩,
    ⟨"tags", applied "HashSet" (plain "String"), false, value .textSet (TextSet.ofTexts ["a"])⟩,
    ⟨"level", plain "Level", true, .entry "Medium"⟩,
    ⟨"payload", plain "Payload", false, .tree (payloadOf "default" 1)⟩,
    ⟨"zero", plain "i32", true, value .integer (0 : Int32)⟩,
    ⟨"off", plain "bool", true, value .boolean false⟩]

def nullableData : Sample where
  name := "NullableData"
  id := "NullableData"
  module := ["model", "primitive"]
  enums := ["Level"]
  structured := ["Payload"]
  functions := modelFunctions
  fields := [⟨"flag", optional (plain "bool"), false, .absent⟩,
    ⟨"count", optional (plain "i32"), false, given .integer (5 : Int32)⟩,
    ⟨"total", optional (plain "i64"), false, .absent⟩,
    ⟨"ratio", optional (plain "f32"), false, .absent⟩,
    ⟨"precise", optional (plain "f64"), true, given .double ⟨0x3fe0000000000000⟩⟩,
    ⟨"blob", optional bytes, false, .absent⟩,
    ⟨"label", optional (plain "String"), false, given .text "n"⟩,
    ⟨"tags", optional (applied "BTreeSet" (plain "String")), false, .absent⟩,
    ⟨"level", optional (plain "Level"), true, .absent⟩,
    ⟨"payload", optional (plain "Payload"), false, .absent⟩,
    ⟨"enabled", optional (plain "bool"), true, given .boolean true⟩]

def customData : Sample where
  name := "CustomData"
  id := "custom"
  module := ["model", "custom"]
  enums := ["Level"]
  structured := ["Payload"]
  functions := modelFunctions
  fields := [⟨"since", plain "NaiveDate", true, .foreign (.date ⟨2024, 1, 1, by decide⟩)⟩,
    ⟨"until", optional (plain "NaiveDate"), false, .absent⟩,
    ⟨"pinned", applied "Vec" (plain "i32"), false, .foreign (.ints [1, 2, 3])⟩,
    ⟨"accent", plain "Color", false, .foreign (.color 0xff00ff)⟩,
    ⟨"levels", applied "BTreeSet" (plain "Level"), false, .foreign (.levels (.ofList [.low]))⟩,
    ⟨"power", plain "Power", true, .foreign (.power .on)⟩]

def edgePlain : Sample where
  name := "EdgePlain"
  id := "edge.plain"
  module := ["edge"]
  enums := ["Mode"]
  structured := ["Note"]
  functions := edgeFunctions
  fields := [⟨"low", plain "i32", true, value .integer Int32.minValue⟩,
    ⟨"big", plain "i64", true, value .long (-1 : Int64)⟩,
    ⟨"hole", plain "f32", true, value .float hole⟩,
    ⟨"wide", plain "f64", true, value .double ⟨0x8000000000000000⟩⟩,
    ⟨"raw", bytes, true, value .byteSequence []⟩,
    ⟨"words", applied "BTreeSet" (plain "String"), true, value .textSet SortedMap.empty⟩,
    ⟨"tags", applied "HashSet" (plain "String"), true, value .textSet (TextSet.ofTexts ["b", "a"])⟩,
    ⟨"r#type", plain "String", true, value .text ""⟩,
    ⟨"mode", plain "Mode", false, .entry "On"⟩,
    ⟨"note", plain "Note", true, .tree (noteOf "t" none [])⟩]

def edgeNullable : Sample where
  name := "EdgeNullable"
  id := "EdgeNullable"
  module := ["edge"]
  enums := ["Mode"]
  structured := ["Note"]
  functions := edgeFunctions
  fields := [⟨"flag", optional (plain "bool"), true, .absent⟩,
    ⟨"count", optional (plain "i32"), true, .absent⟩,
    ⟨"total", optional (plain "i64"), true, .absent⟩,
    ⟨"ratio", optional (plain "f32"), true, given .float hole⟩,
    ⟨"precise", optional (plain "f64"), true, .absent⟩,
    ⟨"blob", optional bytes, true, given .byteSequence []⟩,
    ⟨"label", optional (plain "String"), true, .absent⟩,
    ⟨"tags", optional (applied "HashSet" (plain "String")), true,
      given .textSet (TextSet.ofTexts ["x"])⟩,
    ⟨"mode", optional (plain "Mode"), true, .present (.entry "Auto")⟩,
    ⟨"note", optional (plain "Note"), true, .present (.tree (noteOf "n" (some (-1)) ["q"]))⟩,
    ⟨"memo", optional (plain "Note"), true, .absent⟩]

def edgeConverted : Sample where
  name := "EdgeConverted"
  id := "edge.converted"
  module := ["edge"]
  enums := ["Mode"]
  structured := ["Note"]
  functions := edgeFunctions
  fields := [⟨"tint", plain "Tint", true, wrapping .text "red"⟩,
    ⟨"stamp", optional (plain "Stamp"), true, .absent⟩,
    ⟨"secret", plain "Secret", true, wrapping .byteSequence [1, 2, 3]⟩,
    ⟨"sealed", optional (plain "Sealed"), true, .absent⟩,
    ⟨"angle", plain "Angle", true, wrapping .float hole⟩,
    ⟨"scale", plain "Scale", false, wrapping .double ⟨0x3ff0000000000000⟩⟩,
    ⟨"switch", optional (plain "Switch"), true, .absent⟩,
    ⟨"group", plain "Group", true, wrapping .textSet SortedMap.empty⟩,
    ⟨"crew", plain "Crew", true, wrapping .textSet SortedMap.empty⟩,
    ⟨"rank", plain "Rank", true, wrapping .integer Int32.minValue⟩]

def samples : List Sample :=
  [primitiveData, nullableData, customData, edgePlain, edgeNullable, edgeConverted]

end TypedPreferences.Samples
