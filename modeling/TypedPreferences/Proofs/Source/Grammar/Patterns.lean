import TypedPreferences.Proofs.Source.Grammar.Types
import TypedPreferences.Source.Grammar.Pattern

/-! Patterns are read soundly. -/

namespace TypedPreferences.Source

open Grammar Reader

set_option synthInstance.maxSize 10000

instance isOperator_twoDots : IsOperator ".." := ⟨by decide, by decide⟩

instance isOperator_closedDots : IsOperator "..=" := ⟨by decide, by decide⟩

instance isOperator_bar : IsOperator "|" := ⟨by decide, by decide⟩

instance isOperator_at : IsOperator "@" := ⟨by decide, by decide⟩

instance sound_position : Sound position where
  reads := by
    intro c hc _ c' hrun
    rw [position, rest_bind] at hrun
    generalize hts : c.rest = ts at hrun
    rw [hts] at hc
    split at hrun
    · rename_i text left
      obtain ⟨hphrase, hleft⟩ := isPhrase_singleton hc nofun
      cases hnumber : wholeNumber? text with
      | none =>
        rw [hnumber] at hrun
        cases hrun
      | some n =>
        rw [hnumber] at hrun
        obtain ⟨⟨⟩, c₁, hrequire, hmoved⟩ := Reader.bind_eq_some.1 hrun
        obtain ⟨-, rfl⟩ := require_eq_some hrequire
        cases hmoved
        have hwritten := IsPhrase.literal (.position n) .nil
        exact ⟨_, _, ⟨hts, by simp, hphrase, hwritten, hleft⟩, trivial⟩
    · cases hrun

instance sound_fieldKey : Sound fieldKey := by
  unfold fieldKey
  infer_instance

instance sound_rangeLimits (threeDots : Bool) : Sound (rangeLimits threeDots) := by
  have hdots : Known (Token.operator "..=") := ⟨isPhrase_operatorOf (by decide)⟩
  unfold rangeLimits
  infer_instance

section

variable (r : Rules) [r.Sound]

instance sound_constantBlock : Sound (constantBlock r) := by
  unfold constantBlock
  infer_instance

instance sound_rangeBound : Sound (rangeBound r) := by
  unfold rangeBound
  infer_instance

instance sound_rangeEnd (threeDots : Bool) : Sound (rangeEnd r threeDots) := by
  unfold rangeEnd
  infer_instance

instance sound_alternativesRead : Sound (alternativesRead r) := by
  unfold alternativesRead
  infer_instance

instance sound_alternatives : Sound (alternatives r) := by
  unfold alternatives
  infer_instance

instance sound_fieldPattern : Sound (fieldPattern r) := by
  unfold fieldPattern
  infer_instance

instance sound_fieldPatterns : Sound (fieldPatterns r) := by
  unfold fieldPatterns
  infer_instance

instance sound_pathPattern : Sound (pathPattern r) := by
  unfold pathPattern
  infer_instance

instance sound_binding : Sound (binding r) := by
  unfold binding
  infer_instance

instance sound_elementPattern : Sound (elementPattern r) := by
  unfold elementPattern
  infer_instance

instance sound_patternForm : Sound (patternForm r) := by
  unfold patternForm
  infer_instance

instance sound_patternBody : Sound (patternBody r) := by
  unfold patternBody
  infer_instance

end

end TypedPreferences.Source
