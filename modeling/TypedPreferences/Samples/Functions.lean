import TypedPreferences.Conversion.Registry
import TypedPreferences.Samples.Value

/-! The converter functions of the samples: their declared types, by which they are found, and what
they do. -/

namespace TypedPreferences.Samples

open Source

def plain (name : String) : Ty := .plain {} name

def applied (name : String) (arg : Ty) : Ty := .applied {} name false [.type arg] false

def optional (ty : Ty) : Ty := applied "Option" ty

def borrowed (ty : Ty) : Ty := .reference [] ty

def bytes : Ty := applied "Vec" (plain "u8")

/-- A converter function: whose it is, its name, what it takes, what it gives, and what it does. -/
structure Function where
  owner : List String
  name : String
  receiver : Ty
  output : Ty
  run : Datum Foreign → Datum Foreign

def Function.declared (f : Function) : ConverterFn where
  path := ⟨{ steps := ("crate" :: f.owner).map (⟨·, []⟩) }, f.name, []⟩
  display := "::".intercalate (f.owner.getLast?.toList ++ [f.name])
  receiver := .ofTy f.receiver
  output := .ofTy f.output

open Carrier

def dateFunctions : List Function :=
  let owner := ["model", "converters", "DateConverters"]
  [⟨owner, "date_to_days", borrowed (plain "NaiveDate"), plain "i64",
    function date (stored .long) dateToDays⟩,
    ⟨owner, "days_to_date", plain "i64", plain "NaiveDate",
      function (stored .long) date daysToDate⟩,
    ⟨owner, "format_date", borrowed (optional (plain "NaiveDate")), optional (plain "String"),
      function date.option (stored .text).option formatDate⟩,
    ⟨owner, "parse_date", optional (plain "String"), optional (plain "NaiveDate"),
      function (stored .text).option date.option parseDate⟩,
    ⟨owner, "color_to_bits", plain "Color", plain "i32",
      function color (stored .integer) colorToBits⟩,
    ⟨owner, "bits_to_color", plain "i32", plain "Color",
      function (stored .integer) color bitsToColor⟩]

def powerFunctions : List Function :=
  let owner := ["model", "converters", "PowerConverters"]
  [⟨owner, "power_to_bool", borrowed (plain "Power"), plain "bool",
    function power (stored .boolean) powerToBool⟩,
    ⟨owner, "bool_to_power", plain "bool", plain "Power",
      function (stored .boolean) power boolToPower⟩]

def levelFunctions : List Function :=
  let owner := ["model", "converters", "LevelConverters"]
  [⟨owner, "levels_to_names", borrowed (applied "BTreeSet" (plain "Level")),
    applied "HashSet" (plain "String"),
      function levels (stored .textSet) levelsToNames⟩,
    ⟨owner, "names_to_levels", applied "HashSet" (plain "String"),
      applied "BTreeSet" (plain "Level"),
      function (stored .textSet) levels namesToLevels⟩]

def listFunctions : List Function :=
  let owner := ["model", "converters", "list_converters"]
  [⟨owner, "join_ints", borrowed (applied "Vec" (plain "i32")), plain "String",
    function ints (stored .text) joinInts⟩,
    ⟨owner, "split_ints", borrowed (plain "str"), applied "Vec" (plain "i32"),
      function (stored .text) ints splitInts⟩]

def modelFunctions : List Function :=
  dateFunctions ++ powerFunctions ++ levelFunctions ++ listFunctions

def tintOut (tint : Option String) : Option String :=
  tint.filter (· != "none")

def stampOut : Option String → String
  | some stamp => "s:" ++ stamp
  | none => "-"

def stampIn (text : String) : String :=
  match text.toList with
  | 's' :: ':' :: rest => String.ofList rest
  | _ => text

def sealedOut (bytes : Option (List UInt8)) : Option (List UInt8) :=
  bytes.filter fun b => !b.isEmpty

/-- The seal with a stored form; there is none for bytes that begin with zero. -/
def sealedIn (bytes : Option (List UInt8)) : Option (List UInt8) :=
  bytes.filter fun b => b.head? != some 0

def crewOut (crew : TextSet) : Option TextSet :=
  if crew.texts.isEmpty then none else some crew

/-- The functions of the other samples; their types wrap what is stored. -/
def edgeFunctions : List Function :=
  let owner := ["edge", "EdgeConverters"]
  [⟨owner, "tint_out", optional (plain "Tint"), optional (plain "String"),
      function (wrapped .text).option (stored .text).option tintOut⟩,
    ⟨owner, "tint_in", optional (plain "String"), plain "Tint",
      function (stored .text).option (wrapped .text) (·.getD "")⟩,
    ⟨owner, "stamp_out", borrowed (optional (plain "Stamp")), plain "String",
      function (wrapped .text).option (stored .text) stampOut⟩,
    ⟨owner, "stamp_in", borrowed (plain "str"), plain "Stamp",
      function (stored .text) (wrapped .text) stampIn⟩,
    ⟨owner, "secret_out", borrowed (plain "Secret"), bytes,
      function (wrapped .byteSequence) (stored .byteSequence) List.reverse⟩,
    ⟨owner, "secret_in", borrowed (.slice (plain "u8")), plain "Secret",
      function (stored .byteSequence) (wrapped .byteSequence) List.reverse⟩,
    ⟨owner, "sealed_out", borrowed (optional (plain "Sealed")), optional bytes,
      function (wrapped .byteSequence).option (stored .byteSequence).option sealedOut⟩,
    ⟨owner, "sealed_in", borrowed (optional bytes), optional (plain "Sealed"),
      function (stored .byteSequence).option (wrapped .byteSequence).option sealedIn⟩,
    ⟨owner, "angle_out", plain "Angle", plain "f32", function (wrapped .float) (stored .float) id⟩,
    ⟨owner, "angle_in", plain "f32", plain "Angle", function (stored .float) (wrapped .float) id⟩,
    ⟨owner, "scale_out", borrowed (plain "Scale"), plain "f64",
      function (wrapped .double) (stored .double) id⟩,
    ⟨owner, "scale_in", borrowed (plain "f64"), plain "Scale",
      function (stored .double) (wrapped .double) id⟩,
    ⟨owner, "switch_out", borrowed (optional (plain "Switch")), plain "bool",
      function (wrapped .boolean).option (stored .boolean) (·.getD false)⟩,
    ⟨owner, "switch_in", plain "bool", optional (plain "Switch"),
      function (stored .boolean) (wrapped .boolean).option some⟩,
    ⟨owner, "group_out", borrowed (plain "Group"), applied "HashSet" (plain "String"),
      function (wrapped .textSet) (stored .textSet) id⟩,
    ⟨owner, "group_in", borrowed (applied "HashSet" (plain "String")), plain "Group",
      function (stored .textSet) (wrapped .textSet) id⟩,
    ⟨owner, "crew_out", borrowed (plain "Crew"), optional (applied "BTreeSet" (plain "String")),
      function (wrapped .textSet) (stored .textSet).option crewOut⟩,
    ⟨owner, "crew_in", optional (applied "BTreeSet" (plain "String")), plain "Crew",
      function (stored .textSet).option (wrapped .textSet) (·.getD SortedMap.empty)⟩,
    ⟨owner, "rank_out", plain "Rank", plain "i32",
      function (wrapped .integer) (stored .integer) id⟩,
    ⟨owner, "rank_in", plain "i32", plain "Rank", function (stored .integer) (wrapped .integer) id⟩]

def wrappedKind? : String → Option Primitive
  | "Tint" | "Stamp" => some .text
  | "Secret" | "Sealed" => some .byteSequence
  | "Angle" => some .float
  | "Scale" => some .double
  | "Switch" => some .boolean
  | "Group" | "Crew" => some .textSet
  | "Rank" => some .integer
  | _ => none

end TypedPreferences.Samples
