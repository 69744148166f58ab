import TypedPreferences.Proofs.Source.Grammar.Generics
import TypedPreferences.Source.Grammar.Type

/-! Types are read soundly: a type as it is read is proper. -/

namespace TypedPreferences.Source

open Grammar Reader

set_option synthInstance.maxSize 10000

/-! What is known of a form: its parts, and that it is no name when it has no structure. -/

instance checkedForm : Checked TypeForm :=
  ⟨fun form => Checked.holds form.ty ∧ Checked.holds form.bound⟩

instance known_form {ty : Option Ty} {bound : Option (List Token)} {asItStands : Bool}
    [hty : Known ty] [hbound : Known bound] : Known (⟨ty, bound, asItStands⟩ : TypeForm) :=
  ⟨⟨hty.holds, hbound.holds⟩⟩

namespace Grammar.TypeForm

/-- The parts of a form are as they should be, and without a structure its spelling is no name. -/
def Settled (form : TypeForm) (taken new : List Token) : Prop :=
  Checked.holds form ∧ (form.ty = none → Unnamed (if form.asItStands then taken else new))

variable {form : TypeForm} {taken new : List Token}

theorem Settled.of_unnamed (h : Checked.holds form) (htaken : Unnamed taken) (hnew : Unnamed new) :
    form.Settled taken new := by
  refine ⟨h, fun _ => ?_⟩
  split
  · exact htaken
  · exact hnew

theorem Settled.append_right (h : form.Settled taken new) (taken' new' : List Token) :
    form.Settled (taken' ++ taken) (new' ++ new) := by
  refine ⟨h.1, fun hnone => ?_⟩
  have hspelling := h.2 hnone
  split at hspelling
  · rw [if_pos ‹_›]
    exact hspelling.append_right taken'
  · rw [if_neg ‹_›]
    exact hspelling.append_right new'

end Grammar.TypeForm

open TypeForm

/-- A reader that neither takes nor writes just a name. -/
theorem settled_of_marked {p : Reader TypeForm} [Marked p] : Reads p Settled :=
  reads_of_marked fun _ _ _ h htaken hnew => .of_unnamed h htaken hnew

instance known_paren {ty : Ty} [h : Known ty] : Known (Ty.paren ty) :=
  ⟨⟨h.holds.1, nofun⟩⟩

instance known_slice {ty : Ty} [h : Known ty] : Known (Ty.slice ty) :=
  ⟨⟨h.holds.1, nofun⟩⟩

instance known_array {ty : Ty} {length : List Token} [h : Known ty] [h' : Known length] :
    Known (Ty.array ty length) :=
  ⟨⟨⟨h.holds.1, h'.holds⟩, nofun⟩⟩

instance known_reference {ty : Ty} {modifiers : List Token} [h : Known modifiers] [h' : Known ty] :
    Known (Ty.reference modifiers ty) :=
  ⟨⟨⟨h.holds, h'.holds.1⟩, nofun⟩⟩

instance isOperator_dots : IsOperator "..." := ⟨by decide, by decide⟩

instance isOperator_star : IsOperator "*" := ⟨by decide, by decide⟩

instance isOperator_and : IsOperator "&" := ⟨by decide, by decide⟩

instance isOperator_semicolon : IsOperator ";" := ⟨by decide, by decide⟩

instance isKeyword_dyn : IsKeyword "dyn" := ⟨by decide⟩

instance isKeyword_impl : IsKeyword "impl" := ⟨by decide⟩

instance isKeyword_underscore : IsKeyword "_" := ⟨by decide⟩

/-! Function pointers. -/

instance sound_variadic? : Sound variadic? := by
  unfold variadic?
  dsimp only
  infer_instance

section

variable (r : Rules) [r.Sound]

instance sound_pointerArgument (first : Bool) : Sound (pointerArgument r first) := by
  unfold pointerArgument
  dsimp only
  infer_instance

instance sound_pointerParam (first : Bool) : Sound (pointerParam r first) := by
  unfold pointerParam
  infer_instance

instance sound_pointerParams : Sound (pointerParams r) := by
  unfold pointerParams
  infer_instance

end

instance sound_abi? : Sound abi? := by
  unfold abi?
  infer_instance

section

variable (r : Rules) [r.Sound]

instance sound_result? (plus : Bool) : Sound (result? r plus) := by
  unfold result?
  infer_instance

instance marked_functionPointer : Marked (functionPointer r) := by
  unfold functionPointer
  infer_instance

end

/-! Sums of bounds and types in parentheses. -/

instance checkedParenthesised : Checked Parenthesised where
  holds
    | .single read => Checked.holds read
    | .relaxed spelling => IsPhrase spelling
    | .tuple => True

instance known_single {read : TypeRead} [h : Known read] : Known (Parenthesised.single read) :=
  ⟨h.holds⟩

instance known_relaxed {ts : List Token} [h : Known ts] : Known (Parenthesised.relaxed ts) :=
  ⟨h.holds⟩

instance known_tuple : Known Parenthesised.tuple := ⟨trivial⟩

section

variable (r : Rules) [r.Sound]

instance sound_moreBounds : Sound (moreBounds r) := by
  unfold moreBounds
  infer_instance

/-- What stands in parentheses: bounds that begin with a lifetime are no name. -/
instance marked_parenthesised : Marked (parenthesised r) := by
  refine @marked_inside _ _ _ _ ⟨fun c hc => ?_⟩
  refine readsFrom_rest (.ite (fun _ => ?_) fun _ => .ite (fun hlifetime => ?_) fun _ => ?_)
  · exact reads_of_sound (fun _ _ _ h => h) c hc
  · have hbounds := readsFrom_typeBounds (c := { c with written := #[] }) r .object true hc hlifetime
    refine (readsFrom_noting hbounds).bind fun x taken new c₁ hreading ⟨hspelled, hunnamed⟩ => ?_
    rw [← hspelled] at hunnamed
    have hphrase := hspelled ▸ hreading.new
    exact Reads.pure ⟨⟨⟨hphrase, hunnamed⟩, nofun⟩, nofun⟩ c₁ hreading.rest
  · exact reads_of_sound (fun _ _ _ h => h) c hc

instance marked_parenType (plus : Bool) : Marked (parenType r plus) := by
  unfold parenType
  constructor
  refine (reads_capture (marked_parenthesised r).reads).bind fun x taken new _ hx => ?_
  obtain ⟨inner, spelled⟩ := x
  obtain ⟨hnew, hspelled, hinner, htaken, hunnamed⟩ := hx
  subst hnew
  -- What was captured is a group, which already is no name; the rest may add to it.
  suffices h : Reads _ fun form _ new => Checked.holds form ∧ Unnamed new from
    h.mono fun form taken' new' ⟨hform, hnew'⟩ => ⟨hform, htaken.append_left taken', hnew'⟩
  cases inner with
  | tuple => exact reads_write_bind hspelled hunnamed
  | relaxed trait =>
    have : Known trait := ⟨hinner⟩
    exact reads_write_bind hspelled hunnamed
  | single read =>
    refine (reads_looks _).bind fun found taken' new' _ ⟨htaken', hnew'⟩ => ?_
    subst htaken' hnew'
    dsimp only
    split
    · rename_i trait hbound
      have htrait : IsPhrase trait := hinner.2 trait (Option.ite_none_right_eq_some.1 hbound).2
      exact reads_write_bind (.group htrait .nil) unnamed_group
    · have : Known read := ⟨hinner⟩
      exact reads_write_bind hspelled hunnamed

/-- A sum of bounds with a plus sign is no name. -/
theorem readsFrom_boundsAfter {c : Cursor} (hc : IsPhrase c.rest) (h : atMark "+" c.rest = true) :
    ReadsFrom c (boundsAfter r) fun _ _ new => Unnamed new := by
  unfold boundsAfter
  refine readsFrom_looks ?_
  refine (readsFrom_repeated ?_).bind fun _ taken new c₁ hreading hnew => ?_
  · refine (readsFrom_mark? hc h).bind fun found taken new c₁ hreading hnew => ?_
    exact reads_of_sound (fun _ _ new' hfound => ⟨hfound, hnew.append_left new'⟩) c₁ hreading.rest
  · exact Reads.pure (hnew.append_left []) c₁ hreading.rest

instance sound_boundsAfter : Sound (boundsAfter r) := by
  unfold boundsAfter
  infer_instance

/-- What follows the first bound: with it the whole is no name when the bound is none, or when a
plus sign follows. -/
theorem readsFrom_sum {c : Cursor} {trait : List Token} {plus : Bool} (hc : IsPhrase c.rest)
    (htrait : IsPhrase trait)
    (h : Unnamed trait ∨ plus = true ∧ atMark "+" c.rest = true) :
    ReadsFrom c (do
      let alone ← if plus then boundsAfter r else pure true
      return ({ bound := if alone then some trait else none } : TypeForm))
      fun form taken new => form.Settled taken (trait ++ new) := by
  have hform : ∀ (alone : Bool) taken new, Unnamed (trait ++ new) →
      TypeForm.Settled { bound := if alone then some trait else none } taken (trait ++ new) := by
    intro alone taken new hunnamed
    refine ⟨⟨nofun, fun ts hts => ?_⟩, fun _ => hunnamed⟩
    obtain ⟨-, hspelling⟩ := Option.ite_none_right_eq_some.1 hts
    exact Option.some.inj hspelling ▸ htrait
  have hafter : ReadsFrom c (boundsAfter r) fun _ _ new => Unnamed (trait ++ new) := by
    rcases h with hunnamed | ⟨-, hplus⟩
    · exact reads_of_sound (fun _ _ new _ => hunnamed.append_left new) c hc
    · exact (readsFrom_boundsAfter r hc hplus).mono fun _ _ _ h => h.append_right trait
  refine .ite (fun _ => ?_) fun hplus => ?_
  · refine hafter.bind fun alone taken new c₁ hreading hunnamed => ?_
    refine Reads.pure ?_ c₁ hreading.rest
    simp only [List.append_nil]
    exact hform alone taken new hunnamed
  · -- Where no sum is allowed, a plus sign cannot be why the whole is no name.
    have hunnamed : Unnamed trait := h.resolve_right fun hboth => hplus hboth.1
    exact Reads.pure (hform true [] [] (hunnamed.append_left [])) c hc

/-- A path with parameters that it holds for is no name, and neither is a sum of bounds. -/
theorem reads_pathType (plus : Bool) {parameters : List Token} (h : IsPhrase parameters)
    (hnamed : parameters = [] ∨ Unnamed parameters) :
    Reads (pathType r plus parameters) Settled := by
  intro c hc
  unfold pathType
  refine (readsFrom_capture (reads_qualifiedPath r (bound r) false _ hc)).bind
    fun x taken new c₁ hreading hx => ?_
  obtain ⟨found, spelled⟩ := x
  obtain ⟨rfl, hspelled, hfound, hleft⟩ := hx
  refine readsFrom_rest ?_
  -- A qualified path ends in a name alone; any other may still begin a sum of bounds.
  cases found with
  | inl last =>
    refine ((reads_write hspelled).bind fun _ _ _ _ _ => .pure ?_) c₁ hreading.rest
    refine ⟨⟨?_, nofun⟩, nofun⟩
    rintro _ ⟨⟩
    refine ⟨⟨hspelled, hleft rfl⟩, ?_⟩
    rintro _ _ ⟨⟩
    exact hfound
  | inr p =>
    have htrait : IsPhrase (parameters ++ spelled) := h.append hspelled
    refine .ite (fun _ => ?_) fun _ => ?_
    · have : Known spelled := ⟨hspelled⟩
      exact (settled_of_marked.mono fun _ _ _ h => h.append_right _ _) c₁ hreading.rest
    · refine (reads_write htrait c₁ hreading.rest).bind
        fun _ taken' new' c₂ hreading' ⟨htaken', hnew'⟩ => ?_
      subst htaken' hnew'
      refine .ite (fun hbounds => ?_) fun _ => ?_
      · have hrest : c₁.rest = c₂.rest := hreading'.split
        rw [hrest] at hbounds
        refine (readsFrom_sum r hreading'.rest htrait ?_).mono fun _ _ _ h => h.append_right taken []
        rcases hnamed with rfl | hnamed
        · exact .inr (Bool.and_eq_true_iff.1 hbounds)
        · exact .inl (hnamed.append_left spelled)
      · refine Reads.pure ⟨⟨?_, ?_⟩, nofun⟩ c₂ hreading'.rest
        · rintro _ ⟨⟩
          exact ty_named hfound
        · rintro _ ⟨⟩
          exact htrait

instance marked_builtin : Marked builtin := by
  unfold builtin
  infer_instance

instance sound_builtin : Sound builtin :=
  marked_builtin.sound

theorem reads_namedType (plus : Bool) {parameters : List Token} (h : IsPhrase parameters)
    (hnamed : parameters = [] ∨ Unnamed parameters) :
    Reads (namedType r plus parameters) Settled := by
  have : Known parameters := ⟨h⟩
  unfold namedType
  refine reads_rest.bind fun ts taken new _ ⟨_, htaken, hnew⟩ => ?_
  subst htaken hnew
  split
  · exact settled_of_marked
  split
  · exact settled_of_marked
  · exact reads_pathType r plus h hnamed

theorem reads_typeForm (plus : Bool) : Reads (typeForm r plus) Settled := by
  intro c hc
  have hmarked {p : Reader TypeForm} [Marked p] : ReadsFrom c p Settled := settled_of_marked c hc
  -- Most forms begin with a mark; a path, a binder and bounds are the ones that do not.
  unfold typeForm
  refine readsFrom_rest <|
    .ite (fun _ => ?_) fun _ =>
    .ite (fun _ => hmarked) fun _ =>
    .ite (fun _ => reads_namedType r plus .nil (.inl rfl) c hc) fun _ =>
    .ite (fun _ => hmarked) fun _ =>
    .ite (fun _ => hmarked) fun _ =>
    .ite (fun _ => hmarked) fun _ =>
    .ite (fun _ => hmarked) fun _ =>
    .ite (fun _ => hmarked) fun _ =>
    .ite (fun _ => hmarked) fun _ =>
    .ite (fun _ => hmarked) fun _ =>
    .ite (fun hlifetime => ?_) fun _ => Reads.failure c hc
  · refine ((reads_capture (marked_binder r (bound r)).reads).bind fun x taken new _ hx => ?_) c hc
    obtain ⟨⟨⟩, parameters⟩ := x
    obtain ⟨-, hparameters, -, -, hunnamed⟩ := hx
    refine (reads_looks _).bind fun _ taken₁ new₁ _ _ => ?_
    refine (reads_of_sound fun _ _ _ _ => trivial).bind fun _ taken₂ new₂ _ (_ : True) => ?_
    refine (reads_namedType r plus hparameters (.inr hunnamed)).mono fun form _ _ h => ?_
    exact ((h.append_right taken₂ new₂).append_right taken₁ new₁).append_right taken new
  · refine (readsFrom_typeBounds r .object true hc hlifetime).bind fun _ taken new c₁ hreading hnew => ?_
    refine Reads.pure ⟨⟨nofun, nofun⟩, fun _ => ?_⟩ c₁ hreading.rest
    exact hnew.append_left []

/-- A type as it is read is proper. -/
instance sound_typeBody (plus : Bool) : Sound (typeBody r plus) where
  reads := by
    unfold typeBody
    refine (reads_noting (reads_verbatimWhen (reads_typeForm r plus))).bind
      fun x taken new hphrase hx => .pure ?_
    obtain ⟨form, spelled⟩ := x
    obtain ⟨hspelled, spelling, ⟨⟨hty, hbound⟩, hunnamed⟩, hnew⟩ := hx
    refine ⟨?_, hbound⟩
    cases hform : form.ty with
    | some ty => exact hty ty hform
    | none =>
      refine ⟨⟨hspelled ▸ hphrase, ?_⟩, nofun⟩
      rw [hspelled, hnew]
      exact hunnamed hform

end

end TypedPreferences.Source
