import TypedPreferences.Declared.ModulePath
import TypedPreferences.Proofs.Text.Parts
import TypedPreferences.Proofs.Text.Trimming

/-! Module paths are read as their segments, whatever white space, blank parts and words for the root
are written with them, and from no text is anything read but segments. -/

namespace TypedPreferences

open Text

/-- A text that can name a module below the root. -/
structure IsSegment (segment : List Char) : Prop where
  ne_nil : segment ≠ []
  ne_root : segment ≠ rootWord
  unpadded : Unpadded segment

theorem isSegment_iff {segment : List Char} :
    IsSegment segment ↔ segment ≠ [] ∧ segment ≠ rootWord ∧ Unpadded segment :=
  ⟨fun h => ⟨h.ne_nil, h.ne_root, h.unpadded⟩, fun h => ⟨h.1, h.2.1, h.2.2⟩⟩

instance (segment : List Char) : Decidable (IsSegment segment) :=
  decidable_of_iff _ isSegment_iff.symm

/-- Ways to write segments as parts of a path. A segment may have white space around it, and blank
parts and words for the root may stand anywhere. -/
inductive PartsOf : List String → List (List Char) → Prop where
  | nil : PartsOf [] []
  | segment {segment : String} {segments : List String} {before after : List Char}
    {parts : List (List Char)} (h : IsSegment segment.toList) (hcolon : ':' ∉ segment.toList)
    (hbefore : AreBlank before) (hafter : AreBlank after) (rest : PartsOf segments parts) :
    PartsOf (segment :: segments) ((before ++ segment.toList ++ after) :: parts)
  | blank {segments : List String} {part : List Char} {parts : List (List Char)}
    (h : AreBlank part) (rest : PartsOf segments parts) : PartsOf segments (part :: parts)
  | root {segments : List String} {before after : List Char} {parts : List (List Char)}
    (hbefore : AreBlank before) (hafter : AreBlank after) (rest : PartsOf segments parts) :
    PartsOf segments ((before ++ rootWord ++ after) :: parts)

/-- What is left of the parts of a path without outer white space, blank parts and words for the
root. -/
def keptParts (parts : List (List Char)) : List (List Char) :=
  (parts.map trim).filter fun part => !part.isEmpty && part != rootWord

theorem unpadded_rootWord : Unpadded rootWord := by
  decide

theorem isKept_iff {part : List Char} :
    (!part.isEmpty && part != rootWord) = true ↔ part ≠ [] ∧ part ≠ rootWord := by
  rw [Bool.and_eq_true, Bool.not_eq_true', List.isEmpty_eq_false_iff, bne_iff_ne]

theorem mem_keptParts {segment : List Char} {parts : List (List Char)} :
    segment ∈ keptParts parts ↔ IsSegment segment ∧ ∃ part ∈ parts, trim part = segment := by
  rw [keptParts, List.mem_filter, List.mem_map, isKept_iff]
  constructor
  · rintro ⟨⟨part, hpart, rfl⟩, hne, hroot⟩
    exact ⟨⟨hne, hroot, unpadded_trim part⟩, part, hpart, rfl⟩
  · rintro ⟨h, hpart⟩
    exact ⟨hpart, h.ne_nil, h.ne_root⟩

theorem keptParts_cons_segment {part segment : List Char} (h : IsSegment segment)
    (hpart : trim part = segment) (parts : List (List Char)) :
    keptParts (part :: parts) = segment :: keptParts parts := by
  have hkept : (!segment.isEmpty && segment != rootWord) = true :=
    isKept_iff.2 ⟨h.ne_nil, h.ne_root⟩
  rw [keptParts, List.map_cons, hpart, List.filter_cons, if_pos hkept, keptParts]

theorem keptParts_cons_other {part : List Char} (h : trim part = [] ∨ trim part = rootWord)
    (parts : List (List Char)) : keptParts (part :: parts) = keptParts parts := by
  rw [keptParts, List.map_cons, List.filter_cons, keptParts]
  rcases h with hnil | hroot
  · rw [hnil]
    rfl
  · rw [hroot]
    rfl

/-- Segments are what is left of their parts. -/
theorem PartsOf.keptParts_eq {segments : List String} {parts : List (List Char)}
    (h : PartsOf segments parts) : (keptParts parts).map String.ofList = segments := by
  induction h with
  | nil => rfl
  | segment h _ hbefore hafter _ ih =>
    rw [keptParts_cons_segment h (trim_append hbefore hafter h.unpadded), List.map_cons, ih,
      String.ofList_toList]
  | blank h _ ih =>
    rw [keptParts_cons_other (.inl h.trim_eq_nil), ih]
  | root hbefore hafter _ ih =>
    rw [keptParts_cons_other (.inr (trim_append hbefore hafter unpadded_rootWord)), ih]

theorem Text.AreBlank.colon_not_mem {cs : List Char} (h : AreBlank cs) : ':' ∉ cs :=
  fun hmem => absurd (h ':' hmem) (by decide)

theorem colon_not_mem_padded {before core after : List Char} (hbefore : AreBlank before)
    (hafter : AreBlank after) (h : ':' ∉ core) : ':' ∉ before ++ core ++ after := by
  rw [List.mem_append, List.mem_append, not_or, not_or]
  exact ⟨⟨hbefore.colon_not_mem, h⟩, hafter.colon_not_mem⟩

theorem PartsOf.colon_not_mem {segments : List String} {parts : List (List Char)}
    (h : PartsOf segments parts) : ∀ part ∈ parts, ':' ∉ part := by
  induction h with
  | nil => nofun
  | segment _ hcolon hbefore hafter _ ih =>
    exact List.forall_mem_cons.2 ⟨colon_not_mem_padded hbefore hafter hcolon, ih⟩
  | blank h _ ih =>
    exact List.forall_mem_cons.2 ⟨h.colon_not_mem, ih⟩
  | root hbefore hafter _ ih =>
    exact List.forall_mem_cons.2 ⟨colon_not_mem_padded hbefore hafter (by decide), ih⟩

/-- The words for the root that are taken from the front of a path are parts of it, so that the same
parts are left without this step. -/
theorem keptParts_dropCopies (fuel : Nat) (cs : List Char) :
    keptParts (split "::" (dropCopies (rootWord ++ "::".toList) fuel cs)) =
      keptParts (split "::" cs) := by
  induction fuel generalizing cs with
  | zero => rfl
  | succ fuel ih =>
    rw [dropCopies]
    split
    · rename_i hfront
      obtain ⟨rest, rfl⟩ := List.isPrefixOf_iff_prefix.1 hfront
      have hroot : split "::" (rootWord ++ "::".toList ++ rest) = rootWord :: split "::" rest :=
        splitAfter_part (by decide) rest
      rw [List.drop_left, ih, hroot, keptParts_cons_other (.inr unpadded_rootWord.trim_eq)]
    · rfl

theorem modulePath_eq (text : String) :
    modulePath text = (keptParts (split "::" text.toList)).map String.ofList := by
  rw [← keptParts_dropCopies text.length]
  rfl

/-- However segments without colons are written, they are read, and whatever is read from a text is a
segment without a double colon. -/
theorem module_paths_exact :
    (∀ segments parts text, PartsOf segments parts →
        "::".toList.intercalate parts = String.toList text → modulePath text = segments) ∧
      ∀ text, ∀ segment ∈ modulePath text,
        IsSegment segment.toList ∧ ¬ "::".toList <:+: segment.toList := by
  constructor
  · intro segments parts text h htext
    rw [modulePath_eq, ← htext]
    by_cases hne : parts = []
    · subst hne
      rw [← h.keptParts_eq]
      rfl
    · have hsplit : split "::" ("::".toList.intercalate parts) = parts :=
        splitAfter_intercalate hne h.colon_not_mem
      rw [hsplit, h.keptParts_eq]
  · intro text segment hsegment
    rw [modulePath_eq] at hsegment
    obtain ⟨kept, hkept, rfl⟩ := List.mem_map.1 hsegment
    obtain ⟨hkind, part, hpart, rfl⟩ := mem_keptParts.1 hkept
    rw [String.toList_ofList]
    -- Trimming only shortens a part, and no part had a double colon left in it.
    refine ⟨hkind, fun hcolons => ?_⟩
    have hclear : ¬ "::".toList <:+: part :=
      not_isInfix_of_mem_splitAfter (List.cons_ne_nil _ _) (.nil _ _) part hpart
    exact hclear (hcolons.trans (trim_isInfix part))

/-- A segment that only begins like the word for the root is read, and so is one with white space
inside it. -/
theorem module_paths_exact_crates :
    PartsOf ["crates", "a b"] [[] ++ rootWord ++ [], [], [' '] ++ "crates".toList ++ [], [' '],
        [] ++ "a b".toList ++ ['\t'], [' '] ++ rootWord ++ []] ∧
      modulePath "crate:::: crates:: ::a b\t:: crate" = ["crates", "a b"] ∧
      "a" ∈ modulePath "a::::: b" ∧ IsSegment "a".toList := by
  have hparts : PartsOf ["crates", "a b"] [[] ++ rootWord ++ [], [], [' '] ++ "crates".toList ++ [],
      [' '], [] ++ "a b".toList ++ ['\t'], [' '] ++ rootWord ++ []] := by
    apply PartsOf.root (by decide) (by decide)
    apply PartsOf.blank (by decide)
    apply PartsOf.segment (by decide) (by decide) (by decide) (by decide)
    apply PartsOf.blank (by decide)
    apply PartsOf.segment (by decide) (by decide) (by decide) (by decide)
    exact .root (by decide) (by decide) .nil
  have hmem : "a" ∈ modulePath "a::::: b" := by decide
  obtain ⟨hread, hsegments⟩ := module_paths_exact
  exact ⟨hparts, hread _ _ _ hparts (by decide), hmem, (hsegments _ _ hmem).1⟩

end TypedPreferences
