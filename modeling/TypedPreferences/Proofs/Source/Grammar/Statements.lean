import TypedPreferences.Proofs.Source.Grammar.Expressions
import TypedPreferences.Source.Grammar.Statement

/-! Statements and blocks are read soundly. -/

namespace TypedPreferences.Source

open Grammar Reader

set_option synthInstance.maxSize 1000000

instance sound_ruleCallKind : Sound ruleCallKind := by
  unfold ruleCallKind
  infer_instance

instance sound_statementKind : Sound statementKind := by
  unfold statementKind
  refine Sound.bind inferInstance fun ts _ => Sound.bind inferInstance fun call _ => ?_
  split <;> infer_instance

section

variable (r : Rules) [r.Sound]

instance sound_letStatement : Sound (letStatement r) := by
  unfold letStatement
  infer_instance

instance sound_statement : Sound (statement r) := by
  unfold statement
  refine Sound.bind inferInstance fun kind? _ => ?_
  split <;> infer_instance

instance sound_statements : Sound (statements r) := by
  unfold statements
  infer_instance

instance sound_blockBody (attributes : Bool) : Sound (blockBody r attributes) := by
  unfold blockBody
  infer_instance

end

end TypedPreferences.Source
