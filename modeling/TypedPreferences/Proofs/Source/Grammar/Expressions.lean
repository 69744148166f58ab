import TypedPreferences.Proofs.Source.Grammar.Patterns
import TypedPreferences.Source.Grammar.Expression

/-! Expressions are read soundly. -/

namespace TypedPreferences.Source

open Grammar Reader

set_option synthInstance.maxSize 1000000

instance isOperator_point : IsOperator "." := ⟨by decide, by decide⟩

instance isOperator_fatArrow : IsOperator "=>" := ⟨by decide, by decide⟩

section

variable (r : Rules) [r.Sound]

instance sound_closerOperations (fuel : Nat) (structs : Bool) (level : Nat) (form : ExprForm) :
    Sound (closerOperations fuel r structs level form) := by
  induction fuel generalizing form with
  | zero =>
    unfold closerOperations
    infer_instance
  | succ fuel ih =>
    unfold closerOperations
    infer_instance

instance sound_rightOperand (structs : Bool) (level : Nat) : Sound (rightOperand r structs level) := by
  unfold rightOperand
  infer_instance

instance sound_rangeRest (structs : Bool) : Sound (rangeRest r structs) := by
  unfold rangeRest
  infer_instance

theorem isOperator_of_ahead {ts : List Token} {op : String} {level : Nat}
    (h : operatorAhead ts = some (op, level)) : IsOperator op := by
  have hall : ∀ x ∈ operators, x.1.toList ≠ [] ∧ '\'' ∉ x.1.toList := by decide
  obtain ⟨hnonempty, hunquoted⟩ := hall _ (List.mem_of_find?_eq_some h)
  exact ⟨hnonempty, hunquoted⟩

instance sound_operationBody (structs : Bool) (left : ExprForm) (least : Nat) :
    Sound (operationBody r structs left least) := by
  unfold operationBody
  refine Sound.bind sound_rest fun ts _ => ?_
  split
  · infer_instance
  cases hahead : operatorAhead ts with
  | none => infer_instance
  | some x =>
    have : IsOperator x.1 := isOperator_of_ahead hahead
    infer_instance

instance sound_closureParam : Sound (closureParam r) := by
  unfold closureParam
  infer_instance

instance sound_closure (structs : Bool) : Sound (Grammar.closure r structs) := by
  unfold Grammar.closure
  infer_instance

instance sound_fieldValue : Sound (fieldValue r) := by
  unfold fieldValue
  infer_instance

instance sound_fieldValues : Sound (fieldValues r) := by
  unfold fieldValues
  infer_instance

instance sound_pathExpr (structs : Bool) : Sound (pathExpr r structs) := by
  unfold pathExpr
  infer_instance

instance sound_elements : Sound (elements r) := by
  unfold elements
  infer_instance

instance sound_condition : Sound (condition r) := by
  unfold condition
  infer_instance

instance sound_conditionalBody : Sound (conditionalBody r) := by
  unfold conditionalBody
  infer_instance

instance sound_loop : Sound (loop r) := by
  unfold loop
  infer_instance

instance sound_arm : Sound (arm r) := by
  unfold arm
  infer_instance

instance sound_cases : Sound (cases r) := by
  unfold cases
  infer_instance

instance sound_labelled : Sound (labelled r) := by
  unfold labelled
  infer_instance

instance sound_blockForm : Sound (blockForm r) := by
  unfold blockForm
  infer_instance

theorem isPhrase_positions (numbers : List Nat) :
    IsPhrase ((numbers.map fun n => Token.literal (toString n)).intersperse (.punct '.' false)) := by
  induction numbers with
  | nil => exact .nil
  | cons n rest ih =>
    cases rest with
    | nil => exact .literal (.position n) .nil
    | cons m more => exact .literal (.position n) (.mark (by decide) (by decide) ih)

instance sound_positions (text : String) : Sound (positions text) := by
  unfold positions
  dsimp only
  have hnumber : ∀ part, Sound (match wholeNumber? part with
      | some n => if n < UInt32.size then pure n else (failure : Reader Nat)
      | none => failure) := by
    intro part
    split <;> infer_instance
  refine Sound.bind inferInstance fun numbers _ => ?_
  have : Known ((numbers.map fun n => Token.literal (toString n)).intersperse (.punct '.' false)) :=
    ⟨isPhrase_positions numbers⟩
  infer_instance

instance sound_member : Sound (member r) := by
  have hpoint : Known [Token.punct '.' false] := ⟨.mark (by decide) (by decide) .nil⟩
  unfold member
  refine Sound.bind inferInstance fun _ _ => ⟨fun c hc => readsFrom_rest ?_⟩
  dsimp only
  split
  · rename_i hts
    refine .ite (fun _ => ?_) fun _ => reads_of_sound (fun _ _ _ h => h) c hc
    refine (readsFrom_moveTo hc hts nofun).bind fun _ _ _ c₁ hreading _ => ?_
    exact reads_of_sound (fun _ _ _ h => h) c₁ hreading.rest
  · exact reads_of_sound (fun _ _ _ h => h) c hc

instance sound_trailersFrom (fuel : Nat) (form : ExprForm) :
    Sound (trailersFrom fuel r form) := by
  induction fuel generalizing form with
  | zero =>
    unfold trailersFrom
    infer_instance
  | succ fuel ih =>
    unfold trailersFrom
    infer_instance

instance sound_trailers (form : ExprForm) : Sound (trailers r form) := by
  unfold trailers
  infer_instance

instance sound_afterAttributes (p : Reader ExprForm) [Sound p] : Sound (afterAttributes r p) := by
  unfold afterAttributes
  infer_instance

instance sound_standingHead : Sound (standingHead r) := by
  unfold standingHead
  infer_instance

instance sound_standingBody : Sound (standingBody r) := by
  unfold standingBody
  infer_instance

instance sound_leaving (structs : Bool) : Sound (leaving r structs) := by
  unfold leaving
  infer_instance

instance sound_bindingCondition (structs : Bool) : Sound (bindingCondition r structs) := by
  unfold bindingCondition
  infer_instance

instance sound_atom (structs : Bool) : Sound (atom r structs) := by
  unfold atom
  infer_instance

instance sound_operandForm (structs : Bool) : Sound (operandForm r structs) := by
  unfold operandForm
  refine Sound.bind inferInstance fun attributes _ => Sound.bind sound_rest fun ts _ => ?_
  split
  · infer_instance
  split
  · rename_i op hop
    have hall : ∀ op ∈ ["*", "!", "-"], op.toList ≠ [] ∧ '\'' ∉ op.toList := by decide
    obtain ⟨hnonempty, hunquoted⟩ := hall op (List.mem_of_find?_eq_some hop)
    have : IsOperator op := ⟨hnonempty, hunquoted⟩
    infer_instance
  · infer_instance

instance sound_operandBody (structs : Bool) : Sound (operandBody r structs) := by
  unfold operandBody
  infer_instance

instance sound_exprBody (structs : Bool) : Sound (exprBody r structs) := by
  unfold exprBody
  infer_instance


end

end TypedPreferences.Source
