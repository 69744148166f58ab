import TypedPreferences.Plan.Build
import TypedPreferences.Scan.Findings

/-! Planning over what was found in sources. -/

namespace TypedPreferences

def Findings.context (f : Findings) (rule : NullableRule) : Context :=
  ⟨f.enums.texts, f.structured.texts, .ofSources rule f.converters⟩

end TypedPreferences
