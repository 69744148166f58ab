import TypedPreferences.Emission.Accessor
import TypedPreferences.Generation.Config
import TypedPreferences.Plan.Context

/-! From what was found in the sources to the files with generated source. -/

namespace TypedPreferences

open Source

structure GeneratedFile where
  declaration : String
  tokens : List Token

namespace GeneratedFile

def name (f : GeneratedFile) : String :=
  fileStem f.declaration ++ ".rs"

def header : String := "// @generated by kvprefs_codegen. Do not edit."

def text (f : GeneratedFile) : String :=
  header ++ "\n\n" ++ Token.spellAll f.tokens ++ "\n"

end GeneratedFile

namespace Findings

/-- The file for a declaration. Generated source that cannot be read again is refused. -/
def generateFile (context : Context) (runtime : NamePath) (d : Declaration) :
    Work GeneratedFile := do
  Work.report (.generating d.name d.id)
  let plans ← context.planDeclaration d
  let tokens := Emission.declarationTokens runtime.tokens d (plans.map (·.2))
  match parse? readItems tokens with
  | some _ => return ⟨d.name, tokens⟩
  | none => throw (.format d.name)

def generate (f : Findings) (c : Config) : Work (List GeneratedFile) := do
  let runtime ← c.runtimePath
  f.declarations.mapM (generateFile (f.context c.rule) runtime)

end Findings

end TypedPreferences
