import TypedPreferences.Conversion.Registry
import TypedPreferences.Declared.ModulePath
import TypedPreferences.Generation.FilePath
import TypedPreferences.Source.Parse

/-! The configuration of a generation. -/

namespace TypedPreferences

open Source

/-- What a generation takes from its surroundings: the directory for output, and the directory
against which sources are named. -/
structure Surroundings where
  outDir : Option String
  manifestDir : Option String

/-- A source to scan, and the module it is compiled as. -/
structure SourceFile where
  path : String
  module : List String

/-- A configuration: where output goes, what is scanned, how the generated code names the library,
how nullability counts, and whether the sources are announced before they are read. -/
structure Config where
  outDir : String
  sources : List SourceFile := []
  runtime : String := "::kvprefs"
  rule : NullableRule := .lenient
  announce : Bool := false

namespace Config

/-- The configuration for a build: output goes where the surroundings say, and sources are
announced. -/
def ofSurroundings (s : Surroundings) : Except Fault Config :=
  match s.outDir with
  | some outDir => .ok { outDir, announce := true }
  | none => .error (.config .outputUnset)

/-- Adds a source. A relative path is taken below the manifest directory, if that is known. -/
def addSource (c : Config) (s : Surroundings) (path module : String) : Config :=
  let path := if isAbsolutePath path then path else (s.manifestDir.map (joinPath · path)).getD path
  { c with sources := c.sources ++ [⟨path, modulePath module⟩] }

def runtimePath (c : Config) : Except Fault NamePath :=
  match pathOf? c.runtime with
  | some path => .ok path
  | none => .error (.config (.runtimePath c.runtime))

end Config

end TypedPreferences
