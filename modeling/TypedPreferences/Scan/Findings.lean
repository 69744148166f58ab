import TypedPreferences.Conversion.Registry
import TypedPreferences.Declared.Declaration
import TypedPreferences.Declared.ModulePath
import TypedPreferences.Source.Options
import TypedPreferences.Text.SortedMap

/-! What sources declare: preferences, enumerations with ordinals, structured types and converters.
-/

namespace TypedPreferences

open Source

/-- What was found in the sources so far. -/
structure Findings where
  declarations : List Declaration := []
  enums : TextSet := SortedMap.empty
  structured : TextSet := SortedMap.empty
  converters : List ConverterSource := []

/-- What a scan changes: the findings and the reports. Both stay when it fails. -/
structure ScanState where
  findings : Findings := {}
  events : Array Event := #[]

abbrev Scan := ExceptT Fault (StateM ScanState)

namespace Scan

def note (f : Findings → Findings) : Scan Unit :=
  modifyThe ScanState fun s => { s with findings := f s.findings }

def report (e : Event) : Scan Unit :=
  modifyThe ScanState fun s => { s with events := s.events.push e }

/-- A module that is being scanned: the file it is in, and its path below the root. -/
structure Place where
  path : String
  module : List String

def derives? (attributes : List Attribute) : Option (List String) := do
  let lists ← (attributes.filter (·.path.isIdent "derive")).mapM fun a =>
    match a.body with
    | .list _ args => parse? (fun r => Reader.commaSeparated (readPath r)) args
    | _ => none
  return lists.flatten.map (·.name)

def derives (place : Place) (attributes : List Attribute) : Scan (List String) :=
  match derives? attributes with
  | some names => return names
  | none => throw (.parse place.path .malformed)

def refusedAt (place : Place) : Refusal String → Fault
  | .malformed => .parse place.path .malformed
  | .because group => .parse place.path (.unknownOption group)

def optionsAt {α : Type} (place : Place) (outcome : Except (Refusal String) α) : Scan α :=
  match outcome with
  | .ok a => return a
  | .error refusal => throw (refusedAt place refusal)

def declarationOption (_ : Rules) (_ : Option String) (path : NamePath) :
    Reader (Except String (Option String)) := do
  if path.isIdent "id" then
    return .ok (some (← Options.textOption))
  else
    return .error "preferences"

structure FieldOptions where
  default : Option (List Token) := none
  persistDefault : Bool := false

/-- An option of a field: its default, or that the default is persisted. -/
def fieldOption (r : Rules) (options : FieldOptions) (path : NamePath) :
    Reader (Except String FieldOptions) := do
  if path.isIdent "default" then
    return .ok { options with default := some (← Options.exprOption r) }
  else if path.isIdent "persist_default" then
    return .ok { options with persistDefault := true }
  else
    return .error "pref"

def field (place : Place) (f : NamedField) : Scan Field := do
  let options ← optionsAt place (Options.ofAttributes "pref" fieldOption {} f.attributes)
  return ⟨f.name, .ofTy f.type, options.default, options.persistDefault⟩

/-- The declaration that a structure is. Its namespace is named by an option, or else by the
structure. -/
def declaration (place : Place) (attributes : List Attribute) (name : String) (generics : Generics)
    (fields : Fields) :
    Scan Declaration := do
  if !generics.params.isEmpty then throw (.invalidDeclaration name .generic)
  match fields with
  | .named fields =>
    let id ← optionsAt place (Options.ofAttributes "preferences" declarationOption none attributes)
    return ⟨name, id.getD name, place.module, ← fields.mapM (field place)⟩
  | _ => throw (.invalidDeclaration name .unnamedFields)

def callPath? (place : Place) (tail : List String) : Option NamePath :=
  pathOf? ("::".intercalate (String.ofList rootWord :: place.module ++ tail))

def isReference : Ty → Bool
  | .reference _ _ => true
  | _ => false

/-- The converter that a function is: it has no generic parameters, takes one value that it is not
called on, and gives an owned one. -/
def converter? (owner : String) (path : NamePath) (sig : Signature) :
    Option (ConverterFn × Event) :=
  match sig.generics.params, sig.parameters, sig.output with
  | [], [.typed input], some output =>
    if isReference output then none
    else
      let display := owner ++ "::" ++ sig.name
      some (⟨path, display, .ofTy input, .ofTy output⟩,
        .foundConverter display (Token.spellAll input.tokens) (Token.spellAll output.tokens))
  | _, _, _ => none

/-- The converters among functions that everybody sees. `tail` is the end of the path by which a
function is called. -/
def converters (place : Place) (owner : String) (tail : String → List String)
    (functions : List Signature) :
    Scan ConverterSource := do
  let found := functions.filterMap fun sig => do
    converter? owner (← callPath? place (tail sig.name)) sig
  found.forM fun f => report f.2
  return ⟨owner, found.map (·.1)⟩

def publicMember? : Member → Option Signature
  | .function .everywhere sig => some sig
  | _ => none

def publicFunction? (item : Item) : Option Signature :=
  match item.kind with
  | .function .everywhere sig => some sig
  | _ => none

def typeName? : Ty → Option String
  | .plain _ name => some name
  | .applied _ name _ _ _ => some name
  | .projection _ last => some last
  | _ => none

def isConverterSource (attributes : List Attribute) : Bool :=
  attributes.any (·.path.name == "type_converters")

def addConverters (source : ConverterSource) : Scan Unit :=
  note fun f => { f with converters := f.converters ++ [source] }

def record (place : Place) (attributes : List Attribute) (name : String) (generics : Generics)
    (fields : Fields) : Scan Unit := do
  let derived ← derives place attributes
  if derived.contains "Marshal" then
    note fun f => { f with structured := f.structured.insert name () }
  if derived.contains "Preferences" then
    let d ← declaration place attributes name generics fields
    report (.foundDeclaration d.name d.fields.length)
    note fun f => { f with declarations := f.declarations ++ [d] }

def enumeration (place : Place) (attributes : List Attribute) (name : String) : Scan Unit := do
  let derived ← derives place attributes
  if derived.contains "PrefEnum" then note fun f => { f with enums := f.enums.insert name () }
  if derived.contains "Marshal" then
    note fun f => { f with structured := f.structured.insert name () }

/-- Scans an implementation. It is a source of converters when it is marked, is of no trait, has no
generic parameters and is on a path. -/
def implementation (place : Place) (attributes : List Attribute) (block : Implementation) :
    Scan Unit := do
  if isConverterSource attributes && !block.ofTrait && block.generics.params.isEmpty then
    match typeName? block.selfType with
    | some owner =>
      addConverters (← converters place owner (fun name => [owner, name])
        (block.members.filterMap publicMember?))
    | none => return ()

mutual

def item (place : Place) : Item → Scan Unit
  | .mk attributes (.record name generics fields) _ => record place attributes name generics fields
  | .mk attributes (.enumeration name _ _) _ => enumeration place attributes name
  | .mk attributes (.implementation block) _ => implementation place attributes block
  | .mk attributes (.submodule name (some content)) _ => do
    let inside : Place := { place with module := place.module ++ [name] }
    if isConverterSource attributes then
      addConverters (← converters inside name (fun f => [f]) (content.filterMap publicFunction?))
    items inside content
  | _ => return ()

def items (place : Place) : List Item → Scan Unit
  | [] => return ()
  | i :: rest => do
    item place i
    items place rest

end

def source (place : Place) (text : String) : Scan Unit :=
  match itemsOf? text with
  | some content => items place content
  | none => throw (.parse place.path .malformed)

def memoryPath : String := "<memory>"

def text (text module : String) : Scan Unit :=
  source ⟨memoryPath, modulePath module⟩ text

/-- Scans several sources without a file, each with its module, in order. One that fails does not
stop the others, and what was found in it before it failed stays. -/
def texts : List (String × String) → ScanState → List (Option Fault) × ScanState
  | [], state => ([], state)
  | (t, m) :: rest, state =>
    let (outcome, state) := (text t m).run.run state
    let fault := match outcome with
      | .ok _ => none
      | .error fault => some fault
    let (faults, state) := texts rest state
    (fault :: faults, state)

end Scan

end TypedPreferences
