import TypedPreferences.Proofs.Source.Amounts

/-! Types with parentheses around some of their parts. They are written with more opening parentheses
than before, unless nothing was put around anything, and apart from parentheses around the whole they
are built as before. -/

namespace TypedPreferences.Source

/-- Tokens, and the same tokens with parentheses around some runs of them, also in groups, any number
of times. -/
inductive Token.Wrapped : List Token → List Token → Prop where
  | nil : Wrapped [] []
  | cons (t : Token) {ts us : List Token} (rest : Wrapped ts us) : Wrapped (t :: ts) (t :: us)
  | group (delimiter : Delimiter) {body body' ts us : List Token} (inside : Wrapped body body')
    (rest : Wrapped ts us) : Wrapped (.group delimiter body :: ts) (.group delimiter body' :: us)
  | parens {run run' ts us : List Token} (inside : Wrapped run run') (rest : Wrapped ts us) :
    Wrapped (run ++ ts) (.group .paren run' :: us)

/-- Segments of a path, and the same segments with parentheses in their arguments. -/
inductive Step.AllWrapped : List Step → List Step → Prop where
  | nil : AllWrapped [] []
  | cons {name : String} {args args' : List Token} {steps steps' : List Step}
    (inside : Token.Wrapped args args') (rest : AllWrapped steps steps') :
    AllWrapped (⟨name, args⟩ :: steps) (⟨name, args'⟩ :: steps')

inductive Qualifier.Wrapped : Qualifier → Qualifier → Prop where
  | mk {leading : Bool} {steps steps' : List Step} (h : Step.AllWrapped steps steps') :
    Wrapped ⟨leading, steps⟩ ⟨leading, steps'⟩

mutual

/-- A type, and the same type with parentheses around parts of it, any number of times: around the
whole, what a reference refers to, an argument, an element, or what stands in its other parts. -/
inductive Ty.Wrapped : Ty → Ty → Prop where
  | parens {t t' : Ty} (inside : Ty.Wrapped t t') : Ty.Wrapped t (.paren t')
  | plain {q q' : Qualifier} (name : String) (qualifier : q.Wrapped q') :
    Ty.Wrapped (.plain q name) (.plain q' name)
  | applied {q q' : Qualifier} (name : String) (turbofish : Bool) {args args' : List Arg}
    (trailing : Bool) (qualifier : q.Wrapped q') (inside : Arg.AllWrapped args args') :
    Ty.Wrapped (.applied q name turbofish args trailing) (.applied q' name turbofish args' trailing)
  | projection {spelling spelling' : List Token} (last : String)
    (inside : Token.Wrapped spelling spelling') :
    Ty.Wrapped (.projection spelling last) (.projection spelling' last)
  | reference (modifiers : List Token) {t t' : Ty} (inside : Ty.Wrapped t t') :
    Ty.Wrapped (.reference modifiers t) (.reference modifiers t')
  | slice {t t' : Ty} (inside : Ty.Wrapped t t') : Ty.Wrapped (.slice t) (.slice t')
  | array {t t' : Ty} {length length' : List Token} (inside : Ty.Wrapped t t')
    (lengths : Token.Wrapped length length') : Ty.Wrapped (.array t length) (.array t' length')
  | paren {t t' : Ty} (inside : Ty.Wrapped t t') : Ty.Wrapped (.paren t) (.paren t')
  | other {spelling spelling' : List Token} (inside : Token.Wrapped spelling spelling') :
    Ty.Wrapped (.other spelling) (.other spelling')

/-- Arguments, and the same arguments with parentheses around parts of them. -/
inductive Arg.AllWrapped : List Arg → List Arg → Prop where
  | nil : Arg.AllWrapped [] []
  | type {t t' : Ty} {args args' : List Arg} (inside : Ty.Wrapped t t')
    (rest : Arg.AllWrapped args args') : Arg.AllWrapped (.type t :: args) (.type t' :: args')
  | lifetime (name : String) {args args' : List Arg} (rest : Arg.AllWrapped args args') :
    Arg.AllWrapped (.lifetime name :: args) (.lifetime name :: args')
  | other {spelling spelling' : List Token} {args args' : List Arg}
    (inside : Token.Wrapped spelling spelling') (rest : Arg.AllWrapped args args') :
    Arg.AllWrapped (.other spelling :: args) (.other spelling' :: args')

end

/-- Whether something stayed as it was, or became larger. -/
def Grows {α : Type} (size : α → Nat) (a b : α) : Prop :=
  a = b ∨ size a < size b

namespace Grows

variable {α β γ : Type} {size : α → Nat} {size' : β → Nat} {size'' : γ → Nat} {a b : α} {a' b' : β}

theorem le (h : Grows size a b) : size a ≤ size b := by
  rcases h with rfl | hlt
  · exact Nat.le_refl _
  · exact Nat.le_of_lt hlt

theorem eq_of_size_eq (h : Grows size a b) (hsize : size a = size b) : a = b := by
  rcases h with heq | hlt
  · exact heq
  · exact absurd hsize (Nat.ne_of_lt hlt)

/-- Of two things that may grow, both stay as they were, or they become larger together. -/
theorem both (h : Grows size a b) (h' : Grows size' a' b') :
    (a = b ∧ a' = b') ∨ size a + size' a' < size b + size' b' := by
  have hle := h.le
  have hle' := h'.le
  rcases h with rfl | hlt
  · rcases h' with rfl | hlt'
    · exact .inl ⟨rfl, rfl⟩
    · exact .inr (by omega)
  · exact .inr (by omega)

/-- What is made of something that may grow may grow with it. -/
theorem map (f : α → β) (h : Grows size a b)
    (hlarger : size a < size b → size' (f a) < size' (f b)) : Grows size' (f a) (f b) := by
  rcases h with rfl | hlt
  · exact .inl rfl
  · exact .inr (hlarger hlt)

theorem map₂ (f : α → β → γ) (h : Grows size a b) (h' : Grows size' a' b')
    (hlarger : size a + size' a' < size b + size' b' → size'' (f a a') < size'' (f b b')) :
    Grows size'' (f a a') (f b b') := by
  rcases h.both h' with ⟨rfl, rfl⟩ | hlt
  · exact .inl rfl
  · exact .inr (hlarger hlt)

end Grows

/-! What is written with more parentheses is written with more opening brackets. -/

/-- The marks that open a parenthesis or a bracket. -/
def isOpening (c : Char) : Bool :=
  c == '(' || c == '['

theorem Token.total_group (delimiter : Delimiter) (body ts : List Token) :
    total isOpening (.group delimiter body :: ts) =
      amount isOpening delimiter.opening + total isOpening body + total isOpening ts := by
  have hclosing : amount isOpening (delimiter.closing body.isEmpty) = 0 := by
    cases delimiter <;> cases body.isEmpty <;> rfl
  rw [total_cons, spell, amount_append, amount_append, hclosing]
  rfl

theorem Token.Wrapped.grows {ts us : List Token} (h : Wrapped ts us) :
    Grows (total isOpening) ts us := by
  induction h with
  | nil => exact .inl rfl
  | cons t _ ih =>
    apply ih.map (List.cons t)
    intro hlt
    rw [total_cons, total_cons]
    exact Nat.add_lt_add_left hlt _
  | group delimiter _ _ ihinside ihrest =>
    apply ihinside.map₂ (fun body ts => Token.group delimiter body :: ts) ihrest
    intro hlt
    rw [total_group, total_group]
    omega
  | parens _ _ ihinside ihrest =>
    -- The new parenthesis counts, whatever stands in it and after it.
    have hopening : amount isOpening Delimiter.paren.opening = 1 := rfl
    have hinside := ihinside.le
    have hrest := ihrest.le
    refine .inr ?_
    rw [total_append, total_group, hopening]
    omega

theorem Step.AllWrapped.grows {steps steps' : List Step} (h : AllWrapped steps steps') :
    Grows (fun steps => Token.total isOpening (Qualifier.spelling ⟨false, steps⟩)) steps steps' := by
  have hcons : ∀ (name : String) (args : List Token) (steps : List Step),
      Token.total isOpening (Qualifier.spelling ⟨false, ⟨name, args⟩ :: steps⟩) =
        amount isOpening name + Token.total isOpening args + Token.total isOpening Token.colons +
          Token.total isOpening (Qualifier.spelling ⟨false, steps⟩) := by
    intro name args steps
    simp only [Qualifier.spelling, List.flatMap_cons, Token.total_append, Token.total_cons,
      Token.spell]
    omega
  induction h with
  | nil => exact .inl rfl
  | @cons name _ _ _ _ inside _ ih =>
    apply inside.grows.map₂ (fun args steps => Step.mk name args :: steps) ih
    intro hlt
    rw [hcons, hcons]
    omega

theorem Qualifier.Wrapped.grows {q q' : Qualifier} (h : q.Wrapped q') :
    Grows (fun q => Token.total isOpening q.spelling) q q' := by
  have hleading : ∀ (leading : Bool) (steps : List Step),
      Token.total isOpening (Qualifier.spelling ⟨leading, steps⟩) =
        Token.total isOpening (if leading then Token.colons else []) +
          Token.total isOpening (Qualifier.spelling ⟨false, steps⟩) := by
    intro leading steps
    rw [Qualifier.spelling, Token.total_append]
    rfl
  obtain @⟨leading, steps, steps', hsteps⟩ := h
  apply hsteps.grows.map (Qualifier.mk leading)
  intro hlt
  rw [hleading leading steps, hleading leading steps']
  exact Nat.add_lt_add_left hlt _

/-- The marks around arguments do not depend on how the arguments are written. -/
theorem Arg.AllWrapped.marks_eq (trailing : Bool) {args args' : List Arg}
    (h : Arg.AllWrapped args args') :
    Arg.marks trailing (argTokens args) = Arg.marks trailing (argTokens args') := by
  have hkinds : ∀ {args args' : List Arg}, Arg.AllWrapped args args' →
      (argTokens args).map (fun part => (part.1, ([] : List Token))) =
        (argTokens args').map fun part => (part.1, []) := by
    intro args args' h
    induction args generalizing args' with
    | nil =>
      cases h
      rfl
    | cons arg args ih =>
      cases h with
      | type _ rest => exact congrArg (_ :: ·) (ih rest)
      | lifetime _ rest => exact congrArg (_ :: ·) (ih rest)
      | other _ rest => exact congrArg (_ :: ·) (ih rest)
  rw [marks, marks, hkinds h]

mutual

/-- A type with more parentheses is written with more of them, unless it stayed as it was. -/
theorem Ty.Wrapped.grows : ∀ {t t' : Ty}, Ty.Wrapped t t' → Grows (Ty.total isOpening) t t'
  | _, _, .parens inside => by
    have hopening : amount isOpening "(" = 1 := rfl
    have hinside := (Ty.Wrapped.grows inside).le
    refine .inr ?_
    -- The one case in which parentheses are added; the others pass on what their parts gained.
    rw [Ty.total_paren, hopening]
    omega
  | _, _, .plain name qualifier => by
    apply qualifier.grows.map (Ty.plain · name)
    intro hlt
    rw [Ty.total, Ty.total, Ty.tokens, Ty.tokens, Token.total_append, Token.total_append]
    exact Nat.add_lt_add_right hlt _
  | _, _, .applied name turbofish trailing qualifier inside => by
    apply qualifier.grows.map₂ (Ty.applied · name turbofish · trailing)
      (Arg.AllWrapped.grows inside)
    intro hlt
    rw [Ty.total_applied, Ty.total_applied, Arg.AllWrapped.marks_eq trailing inside]
    omega
  | _, _, .projection last inside => inside.grows.map (Ty.projection · last) id
  | _, _, .reference modifiers inside => by
    apply (Ty.Wrapped.grows inside).map (Ty.reference modifiers)
    intro hlt
    rw [Ty.total_reference, Ty.total_reference]
    exact Nat.add_lt_add_left hlt _
  | _, _, .slice inside => by
    apply (Ty.Wrapped.grows inside).map Ty.slice
    intro hlt
    rw [Ty.total_slice, Ty.total_slice]
    omega
  | _, _, .array inside lengths => by
    apply (Ty.Wrapped.grows inside).map₂ Ty.array lengths.grows
    intro hlt
    rw [Ty.total_array, Ty.total_array]
    omega
  | _, _, .paren inside => by
    apply (Ty.Wrapped.grows inside).map Ty.paren
    intro hlt
    rw [Ty.total_paren, Ty.total_paren]
    omega
  | _, _, .other inside => inside.grows.map Ty.other id

theorem Arg.AllWrapped.grows : ∀ {args args' : List Arg}, Arg.AllWrapped args args' →
    Grows (Arg.totals isOpening) args args'
  | _, _, .nil => .inl rfl
  | _, _, .type inside rest =>
    (Ty.Wrapped.grows inside).map₂ (fun t args => Arg.type t :: args) (Arg.AllWrapped.grows rest) id
  | _, _, .lifetime name rest =>
    (Arg.AllWrapped.grows rest).map (List.cons (Arg.lifetime name))
      fun hlt => Nat.add_lt_add_left hlt _
  | _, _, .other inside rest =>
    inside.grows.map₂ (fun spelling args => Arg.other spelling :: args) (Arg.AllWrapped.grows rest) id

end

end TypedPreferences.Source
