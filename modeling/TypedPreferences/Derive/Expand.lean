import TypedPreferences.Derive.Ordinals
import TypedPreferences.Emission.Steps
import TypedPreferences.Source.Options
import TypedPreferences.Text.Integer

/-! What the derives of the library expand to: the default value of a declaration, the ordinals of
an enumeration, the mark of a structured type, and the check of a source of converters. -/

namespace TypedPreferences.Derive

open Source
open TypedPreferences.Emission (fill)

inductive DeriveFault where
  | genericDeclaration
  | notStructure
  | unnamedFields
  | missingDefault (declaration field : String)
  | emptyId
  | unknownDeclarationOption
  | unknownFieldOption
  | duplicateDefault
  | notEnumeration
  | genericEnumeration
  | variantWithData
  | converterArguments
  | notConverterSource
  -- The tokens have no proper form.
  | malformed
deriving DecidableEq, Repr

/-- The wording of a fault; tokens without a proper form are not worded here. -/
def DeriveFault.message? : DeriveFault → Option String
  | genericDeclaration => "Preferences does not support generic structs"
  | notStructure => "Preferences can only be derived for structs"
  | unnamedFields => "Preferences requires named fields"
  | missingDefault d f =>
    "[" ++ d ++ "] Property '" ++ f ++
      "' must have a default value, consider adding #[pref(default = ...)] to it."
  | emptyId => "Preferences id must not be empty"
  | unknownDeclarationOption => "Unsupported #[preferences(...)] option. Supported: id = \"...\""
  | unknownFieldOption =>
    "Unsupported #[pref(...)] option. Supported: default = <expr>, persist_default"
  | duplicateDefault => "Duplicate default value for property"
  | notEnumeration => "PrefEnum can only be derived for enums"
  | genericEnumeration => "PrefEnum does not support generic enums"
  | variantWithData => "PrefEnum variants cannot carry data"
  | converterArguments => "#[type_converters] does not accept arguments"
  | notConverterSource =>
    "#[type_converters] can only be used on inherent impl blocks or inline modules"
  | malformed => none

def ofRefusal : Refusal DeriveFault → DeriveFault
  | .malformed => .malformed
  | .because fault => fault

def declarationOption (_ : Rules) (_ : Unit) (path : NamePath) :
    Reader (Except DeriveFault Unit) := do
  if path.isIdent "id" then
    if (← Options.textOption).isEmpty then return .error .emptyId else return .ok ()
  else
    return .error .unknownDeclarationOption

/-- An option of a field: one default at most. A second one is refused after its equals sign. -/
def fieldOption (r : Rules) (default : Option (List Token)) (path : NamePath) :
    Reader (Except DeriveFault (Option (List Token))) := do
  if path.isIdent "default" then
    if default.isSome then
      Reader.mark "="
      return .error .duplicateDefault
    else
      return .ok (some (← Options.exprOption r))
  else if path.isIdent "persist_default" then
    return .ok default
  else
    return .error .unknownFieldOption

def initializer (declaration : String) (f : NamedField) : Except DeriveFault (List Token) :=
  match Options.ofAttributes "pref" fieldOption none f.attributes with
  | .error refusal => .error (ofRefusal refusal)
  | .ok none => .error (.missingDefault declaration f.name)
  | .ok (some default) => .ok (.ident f.name :: .punct ':' false :: default)

def commas (parts : List (List Token)) : List Token :=
  (parts.intersperse [Token.comma]).flatten

def defaultImplementation (name : String) (initializers : List (List Token)) : List Token :=
  fill [("name", [.ident name])] "impl ::core::default::Default for $name" ++
    Token.braces (fill [] "fn default() -> Self" ++
      Token.braces (fill [] "Self" ++ Token.braces (commas initializers)))

def genericsOf : ItemKind → Generics
  | .record _ g _ => g
  | .enumeration _ g _ => g
  | .overlay _ g => g
  | _ => {}

def nameOf : ItemKind → String
  | .record name _ _ => name
  | .enumeration name _ _ => name
  | .overlay name _ => name
  | _ => ""

def preferences (definition : Item) : Except DeriveFault (List Token) := do
  if !(genericsOf definition.kind).params.isEmpty then throw .genericDeclaration
  match Options.ofAttributes "preferences" declarationOption () definition.attributes with
  | .error refusal => throw (ofRefusal refusal)
  | .ok () =>
    match definition.kind with
    | .record name _ (.named fields) =>
      return defaultImplementation name (← fields.mapM (initializer name))
    | .record .. => throw .unnamedFields
    | _ => throw .notStructure

def plainVariant (v : Variant) : Except DeriveFault String :=
  match v.fields with
  | .unit => .ok v.name
  | _ => .error .variantWithData

def ordinalsOf (definition : Item) : Except DeriveFault Ordinals :=
  match definition.kind with
  | .enumeration _ g variants =>
    if !g.params.isEmpty then .error .genericEnumeration
    else (variants.mapM plainVariant).map Ordinals.mk
  | _ => .error .notEnumeration

/-- A whole number of 32 bits, spelled with its type. -/
def int32Literal (n : Int32) : Token :=
  .literal (String.ofList (Text.signedDecimal n.toInt ++ "i32".toList))

/-- The ordinal of an entry is its place, as a number of 32 bits. -/
def entryHoles (entry : String × Nat) : Emission.Holes :=
  [("entry", [.ident entry.1]), ("ordinal", [int32Literal (Int32.ofNat entry.2)])]

def ordinalImplementation (name : String) (o : Ordinals) : List Token :=
  let entries := commas (o.numbered.map fun e => fill (entryHoles e) "Self::$entry")
  let ordinals := o.numbered.flatMap fun e => fill (entryHoles e) "Self::$entry => $ordinal,"
  let inverse := o.numbered.flatMap fun e =>
    fill (entryHoles e) "$ordinal => ::core::option::Option::Some(Self::$entry),"
  fill [("name", [.ident name])] "impl ::kvprefs::PrefEnum for $name" ++
    Token.braces (fill [("entries", entries)] "const ENTRIES: &'static [Self] = &[$entries];" ++
      fill [] "fn ordinal(&self) -> i32" ++
        Token.braces (fill [] "match self" ++ Token.braces ordinals) ++
      fill [] "fn from_ordinal(ordinal: i32) -> ::core::option::Option<Self>" ++
      Token.braces (fill [] "match ordinal" ++
        Token.braces (inverse ++ fill [] "_ => ::core::option::Option::None,")))

def prefEnum (definition : Item) : Except DeriveFault (List Token) :=
  (ordinalsOf definition).map (ordinalImplementation (nameOf definition.kind))

def marshal (definition : Item) : List Token :=
  let g := genericsOf definition.kind
  fill [("generics", g.forImplementation), ("name", [.ident (nameOf definition.kind)]),
    ("args", g.asArguments), ("where", g.predicates)]
    "impl $generics ::kvprefs::Marshal for $name $args $where" ++ Token.braces []

/-- Whether an item may be a source of converters: an implementation of no trait, or a module with
content. -/
def isConverterItem (item : Item) : Bool :=
  match item.kind with
  | .implementation block => !block.ofTrait
  | .submodule _ content => content.isSome
  | _ => false

/-- A source of converters, as it stands. The attribute takes no arguments. -/
def typeConverters (arguments item : List Token) : Except DeriveFault (List Token) :=
  if !arguments.isEmpty then .error .converterArguments
  else
    match itemOf? item with
    | none => .error .malformed
    | some item => if isConverterItem item then .ok item.spelling else .error .notConverterSource

def onDefinition (expand : Item → Except DeriveFault (List Token)) (ts : List Token) :
    Except DeriveFault (List Token) :=
  match definitionOf? ts with
  | some definition => expand definition
  | none => .error .malformed

end TypedPreferences.Derive
