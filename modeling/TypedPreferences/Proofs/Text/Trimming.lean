import TypedPreferences.Text.Blank

/-! White space at the ends of texts. A text is white space, what is left when it is trimmed, and
white space; what is left has none at its ends, and is left whatever stood around it. -/

namespace TypedPreferences.Text

def AreBlank (cs : List Char) : Prop :=
  ∀ c ∈ cs, isBlank c = true

/-- A text without white space at its ends. Inside it may have some. -/
structure Unpadded (cs : List Char) : Prop where
  first : ∀ c ∈ cs.head?, isBlank c = false
  last : ∀ c ∈ cs.getLast?, isBlank c = false

instance (cs : List Char) : Decidable (AreBlank cs) :=
  decidable_of_iff (cs.all isBlank = true) List.all_eq_true

theorem unpadded_iff {cs : List Char} :
    Unpadded cs ↔ cs.head?.any isBlank = false ∧ cs.getLast?.any isBlank = false := by
  rw [Option.any_eq_false, Option.any_eq_false]
  exact ⟨fun h => ⟨h.first, h.last⟩, fun h => ⟨h.1, h.2⟩⟩

instance (cs : List Char) : Decidable (Unpadded cs) :=
  decidable_of_iff _ unpadded_iff.symm

theorem Unpadded.of_forall {cs : List Char} (h : ∀ c ∈ cs, isBlank c = false) : Unpadded cs where
  first c hc := h c (List.mem_of_head? hc)
  last c hc := h c (List.mem_of_getLast? hc)

theorem Unpadded.reverse {cs : List Char} (h : Unpadded cs) : Unpadded cs.reverse where
  first c hc := h.last c (List.head?_reverse ▸ hc)
  last c hc := h.first c (List.getLast?_reverse ▸ hc)

theorem AreBlank.trimStart_append {cs : List Char} (h : AreBlank cs) (rest : List Char) :
    trimStart (cs ++ rest) = trimStart rest :=
  List.dropWhile_append_of_pos h

theorem Unpadded.trimStart_append {core : List Char} (h : Unpadded core) (hne : core ≠ [])
    (rest : List Char) : trimStart (core ++ rest) = core ++ rest := by
  cases core with
  | nil => exact absurd rfl hne
  | cons c cs => exact trimStart_of_not_blank (h.first c rfl)

/-- White space around a text that has none at its ends is dropped. -/
theorem trim_append {before core after : List Char} (hbefore : AreBlank before)
    (hafter : AreBlank after) (h : Unpadded core) : trim (before ++ core ++ after) = core := by
  have hafter' : AreBlank after.reverse := fun c hc => hafter c (List.mem_reverse.1 hc)
  by_cases hne : core = []
  · have hnone : trimStart (after ++ []) = [] := hafter.trimStart_append []
    rw [List.append_nil] at hnone
    rw [hne, trim, List.append_nil, hbefore.trimStart_append, hnone]
    rfl
  · have hne' : core.reverse ≠ [] := List.reverse_ne_nil_iff.2 hne
    calc trim (before ++ core ++ after)
        = (trimStart (core ++ after).reverse).reverse := by
          rw [trim, List.append_assoc, hbefore.trimStart_append, h.trimStart_append hne]
      _ = (trimStart core.reverse).reverse := by
          rw [List.reverse_append, hafter'.trimStart_append]
      _ = core.reverse.reverse := by
          rw [← List.append_nil core.reverse, h.reverse.trimStart_append hne']
      _ = core := List.reverse_reverse core

theorem AreBlank.trim_eq_nil {cs : List Char} (h : AreBlank cs) : trim cs = [] := by
  have htrim : trim ([] ++ [] ++ cs) = [] := trim_append nofun h ⟨nofun, nofun⟩
  rwa [List.append_nil, List.nil_append] at htrim

theorem Unpadded.trim_eq {cs : List Char} (h : Unpadded cs) : trim cs = cs := by
  have htrim : trim ([] ++ cs ++ []) = cs := trim_append nofun nofun h
  rwa [List.nil_append, List.append_nil] at htrim

theorem trim_of_forall {cs : List Char} (h : ∀ c ∈ cs, isBlank c = false) : trim cs = cs :=
  (Unpadded.of_forall h).trim_eq

/-- Trimming at the end leaves the first characters. -/
theorem exists_trim_append (cs : List Char) :
    ∃ after, trimStart cs = trim cs ++ after ∧ AreBlank after := by
  let rest := (trimStart cs).reverse
  have hrest : rest = rest.takeWhile isBlank ++ trimStart rest :=
    List.takeWhile_append_dropWhile.symm
  refine ⟨(rest.takeWhile isBlank).reverse, ?_, fun c hc => ?_⟩
  · have hreversed := congrArg List.reverse hrest
    rwa [List.reverse_reverse, List.reverse_append] at hreversed
  · exact List.all_eq_true.1 List.all_takeWhile c (List.mem_reverse.1 hc)

theorem exists_append_trim (cs : List Char) :
    ∃ before after, cs = before ++ trim cs ++ after ∧ AreBlank before ∧ AreBlank after := by
  obtain ⟨after, hafter, hblank⟩ := exists_trim_append cs
  refine ⟨cs.takeWhile isBlank, after, ?_, fun c hc => ?_, hblank⟩
  · rw [List.append_assoc, ← hafter]
    exact List.takeWhile_append_dropWhile.symm
  · exact List.all_eq_true.1 List.all_takeWhile c hc

theorem not_blank_of_head?_trimStart {cs : List Char} {c : Char}
    (h : (trimStart cs).head? = some c) : isBlank c = false := by
  have hfirst := List.head?_dropWhile_not isBlank cs
  rwa [← trimStart, h] at hfirst

theorem unpadded_trim (cs : List Char) : Unpadded (trim cs) where
  first c hc := by
    obtain ⟨after, hafter, -⟩ := exists_trim_append cs
    have hfirst : (trimStart cs).head? = some c := by
      rw [hafter, List.head?_append, Option.mem_def.1 hc, Option.some_or]
    exact not_blank_of_head?_trimStart hfirst
  last c hc := by
    rw [trim, List.getLast?_reverse] at hc
    exact not_blank_of_head?_trimStart hc

theorem trim_isInfix (cs : List Char) : trim cs <:+: cs := by
  obtain ⟨before, after, hcs, -, -⟩ := exists_append_trim cs
  exact ⟨before, after, hcs.symm⟩

end TypedPreferences.Text
