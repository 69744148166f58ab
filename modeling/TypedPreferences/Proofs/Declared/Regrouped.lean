import TypedPreferences.Proofs.Declared.Held
import TypedPreferences.Proofs.Declared.Nesting
import TypedPreferences.Proofs.Source.Parentheses

/-! How a type and the same type with more parentheses are built: they are both references or none, or
a reference stands in parentheses, and what stands behind the reference and the `Option` is built
alike. -/

namespace TypedPreferences

open Source Text Bracketing Source.Ty

/-! What stays of a type that is written with more parentheses. -/

namespace Source

theorem Ty.bare_ne_paren : ∀ t u : Ty, t.bare ≠ .paren u
  | .paren inner, u => bare_ne_paren inner u
  | .plain _ _, _ => nofun
  | .applied _ _ _ _ _, _ => nofun
  | .projection _ _, _ => nofun
  | .reference _ _, _ => nofun
  | .slice _, _ => nofun
  | .array _ _, _ => nofun
  | .other _, _ => nofun

theorem Ty.Wrapped.bare : ∀ {t t' : Ty}, t.Wrapped t' → t.bare.Wrapped t'.bare
  | _, _, .parens inside => by
    have hinside := Ty.Wrapped.bare inside
    exact hinside
  | _, _, .paren inside => by
    have hinside := Ty.Wrapped.bare inside
    exact hinside
  | _, _, .plain name qualifier => .plain name qualifier
  | _, _, .applied name turbofish trailing qualifier inside =>
    .applied name turbofish trailing qualifier inside
  | _, _, .projection last inside => .projection last inside
  | _, _, .reference modifiers inside => .reference modifiers inside
  | _, _, .slice inside => .slice inside
  | _, _, .array inside lengths => .array inside lengths
  | _, _, .other inside => .other inside

theorem Arg.AllWrapped.types {args args' : List Arg} (h : Arg.AllWrapped args args') :
    List.Forall₂ Ty.Wrapped (typesAmong args) (typesAmong args') := by
  induction args generalizing args' with
  | nil =>
    cases h
    exact .nil
  | cons arg args ih =>
    cases h with
    | type inside rest => exact .cons inside (ih rest)
    | lifetime _ rest =>
      have hrest := ih rest
      exact hrest
    | other _ rest =>
      have hrest := ih rest
      exact hrest

theorem Ty.Wrapped.of_path {t t' : Ty} (h : t.Wrapped t') {name : String} {types types' : List Ty}
    (hpath : t.path? = some (name, types)) (hpath' : t'.path? = some (name, types')) :
    List.Forall₂ Ty.Wrapped types types' := by
  cases h with
  | plain _ _ =>
    cases hpath
    cases hpath'
    exact .nil
  | applied _ _ _ _ inside =>
    cases hpath
    cases hpath'
    exact inside.types
  | parens _ => cases hpath'
  | _ => cases hpath

/-- The length of an array, by its spelling. -/
def Ty.length? : Ty → Option (List Token)
  | .array _ length => some length
  | _ => none

theorem Ty.length?_of_path {t : Ty} {name : String} {types : List Ty}
    (h : t.path? = some (name, types)) : t.length? = none := by
  cases t with
  | array _ _ => cases h
  | _ => rfl

/-- How two types without parentheses around them are built alike. -/
inductive Ty.Parallel : Ty → Ty → Prop where
  | path {t t' : Ty} {name : String} {types types' : List Ty} (hpath : t.path? = some (name, types))
    (hpath' : t'.path? = some (name, types')) (inside : List.Forall₂ Ty.Wrapped types types') :
    Ty.Parallel t t'
  | slice {t t' element element' : Ty} (hslice : t = .slice element) (hslice' : t' = .slice element')
    (inside : element.Wrapped element') : Ty.Parallel t t'
  | array {t t' element element' : Ty} {length length' : List Token}
    (harray : t = .array element length) (harray' : t' = .array element' length')
    (inside : element.Wrapped element') (lengths : Token.Wrapped length length') :
    Ty.Parallel t t'
  | unnamed {t t' : Ty} (hshape : ∀ borrowed, (view t).shape borrowed = .unresolved)
    (hshape' : ∀ borrowed, (view t').shape borrowed = .unresolved) (hpath : t.path? = none)
    (hpath' : t'.path? = none) : Ty.Parallel t t'

theorem Ty.Wrapped.parallel {t t' : Ty} (h : t.Wrapped t') (hbare : t'.bare = t') :
    t.Parallel t' := by
  cases h with
  | parens _ => exact absurd hbare (bare_ne_paren _ _)
  | paren _ => exact absurd hbare (bare_ne_paren _ _)
  | plain name _ => exact .path rfl rfl .nil
  | applied name turbofish trailing _ inside => exact .path rfl rfl inside.types
  | slice inside => exact .slice rfl rfl inside
  | array inside lengths => exact .array rfl rfl inside lengths
  | projection last _ => exact .unnamed (fun _ => rfl) (fun _ => rfl) rfl rfl
  | reference modifiers _ => exact .unnamed (fun _ => rfl) (fun _ => rfl) rfl rfl
  | other _ => exact .unnamed (fun _ => rfl) (fun _ => rfl) rfl rfl

/-- Either neither type is an `Option`, or both are and hold types that are built alike. -/
theorem Ty.Parallel.optional? {t t' : Ty} (h : t.Parallel t') :
    (t.optional? = none ∧ t'.optional? = none) ∨
      ∃ inner inner', t.optional? = some inner ∧ t'.optional? = some inner' ∧
        inner.Wrapped inner' := by
  have hother : ∀ {t : Ty}, t.path? = none → t.optional? = none := by
    intro t hpath
    rw [Ty.optional?, hpath]
    rfl
  cases h with
  | path hpath hpath' inside =>
    rw [optional?_of_path hpath, optional?_of_path hpath']
    split
    · cases inside with
      | nil => exact .inl ⟨rfl, rfl⟩
      | cons hfirst hrest =>
        cases hrest with
        | nil => exact .inr ⟨_, _, rfl, rfl, hfirst⟩
        | cons _ _ => exact .inl ⟨rfl, rfl⟩
    · exact .inl ⟨rfl, rfl⟩
  | slice hslice hslice' _ => exact .inl ⟨hother (hslice ▸ rfl), hother (hslice' ▸ rfl)⟩
  | array harray harray' _ _ => exact .inl ⟨hother (harray ▸ rfl), hother (harray' ▸ rfl)⟩
  | unnamed _ _ hpath hpath' => exact .inl ⟨hother hpath, hother hpath'⟩

/-- Parentheses do not make a type an `Option`, and do not hide one. -/
theorem Ty.Parallel.isSome_optional? {t t' : Ty} (h : t.Parallel t') :
    t.optional?.isSome = t'.optional?.isSome := by
  rcases h.optional? with ⟨hnone, hnone'⟩ | ⟨_, _, hsome, hsome', -⟩
  · rw [hnone, hnone']
  · rw [hsome, hsome']
    rfl

theorem Ty.Parallel.length?_of_none {t t' : Ty} (h : t.Parallel t') (hnone : t.length? = none) :
    t'.length? = none := by
  cases h with
  | path _ hpath' _ => exact length?_of_path hpath'
  | slice _ hslice' _ =>
    rw [hslice']
    rfl
  | array harray _ _ _ =>
    rw [harray] at hnone
    cases hnone
  | unnamed _ hshape' _ _ =>
    cases t' with
    | array element length => cases hshape' false
    | _ => rfl

/-- Types that are both references or both none, one with more parentheses than the other. -/
structure Ty.HeldAlike (t t' : Ty) : Prop where
  wrapped : t.Wrapped t'
  isReference_eq : t.isReference = t'.isReference

namespace Ty.HeldAlike

variable {t t' : Ty} (h : t.HeldAlike t')

include h

theorem unreferenced : t.unreferenced.Wrapped t'.unreferenced := by
  obtain ⟨hwrapped, hreference⟩ := h
  cases hborrowed : t'.isReference with
  | false =>
    rw [hborrowed] at hreference
    rw [unreferenced_of_owned hreference, unreferenced_of_owned hborrowed]
    exact hwrapped.bare
  | true =>
    cases hwrapped with
    | reference modifiers inside => exact inside.bare
    | _ => cases hborrowed

theorem base_wrapped : t.base.Wrapped t'.base := by
  have hparallel := h.unreferenced.parallel (bare_unreferenced t')
  rcases hparallel.optional? with ⟨hnone, hnone'⟩ | ⟨inner, inner', hsome, hsome', hinner⟩
  · rw [base_of_not_optional hnone, base_of_not_optional hnone']
    exact h.unreferenced
  · rw [base, base, hsome, hsome']
    exact hinner.bare

theorem base : t.base.Parallel t'.base :=
  h.base_wrapped.parallel (bare_base t')

theorem nullable_eq : (TypeRef.ofTy t).nullable = (TypeRef.ofTy t').nullable := by
  rw [nullable_ofTy, nullable_ofTy]
  exact (h.unreferenced.parallel (bare_unreferenced t')).isSome_optional?

end Ty.HeldAlike

end Source

/-! What is known of the identities. -/

theorem outsideKeys_opening : OutsideKeys isOpening :=
  forall_of_all (by decide)

/-- A resolved type has the shape of its base. -/
theorem shape_of_resolved {t : Ty} (h : (TypeRef.ofTy t).isUnresolved = false) :
    (TypeRef.ofTy t).shape = (view t.base).shape t.isReference ∧
      (TypeRef.ofTy t).shape ≠ .unresolved := by
  have hne : (TypeRef.ofTy t).shape ≠ .unresolved := by
    intro hshape
    rw [(TypeRef.isUnresolved_iff _).2 hshape] at h
    cases h
  rw [shape_ofTy] at hne ⊢
  cases hoption : t.base.optional? with
  | some inner =>
    rw [hoption] at hne
    exact absurd rfl hne
  | none =>
    rw [hoption] at hne
    exact ⟨rfl, hne⟩

section Lost

variable {t t' : Ty} (h : t.Wrapped t') (hborrowed : t.isReference = true)
  (hlost : t'.isReference = false)

include h hborrowed hlost

/-- A reference in parentheses is no longer taken off: the type is not resolved, and no option. -/
theorem unresolved_of_lost :
    (TypeRef.ofTy t').isUnresolved = true ∧ (TypeRef.ofTy t').nullable = false := by
  have hbare : t'.bare.isReference = true := by
    have hwrapped := h.bare
    cases t with
    | reference modifiers referent =>
      -- Without the parentheses there is the reference again.
      generalize hb : t'.bare = b at hwrapped
      cases hwrapped with
      | parens _ => exact absurd hb (Ty.bare_ne_paren _ _)
      | reference _ _ => rfl
    | _ => cases hborrowed
  have hoption : t'.bare.optional? = none := by
    cases hb : t'.bare with
    | reference _ _ => rfl
    | _ =>
      rw [hb] at hbare
      cases hbare
  have hbase : t'.base = t'.bare := by
    rw [base, unreferenced_of_owned hlost, hoption]
  constructor
  · rw [TypeRef.isUnresolved_iff, shape_ofTy, hbase, hoption]
    exact shape_of_reference hbare _
  · rw [nullable_ofTy, unreferenced_of_owned hlost, hoption]
    rfl

theorem total_lt_of_lost : t.total isOpening < t'.total isOpening := by
  rcases h.grows with rfl | hlt
  · rw [hborrowed] at hlost
    cases hlost
  · exact hlt

theorem amount_key_lt_of_lost :
    amount isOpening (TypeRef.ofTy t).key < amount isOpening (TypeRef.ofTy t').key := by
  have hmore := total_lt_of_lost h hborrowed hlost
  rw [amount_key_of_unresolved _ (unresolved_of_lost h hborrowed hlost).1]
  cases hknown : (TypeRef.ofTy t).isUnresolved with
  | true =>
    rw [amount_key_of_unresolved _ hknown]
    exact hmore
  | false =>
    have hle : amount isOpening (TypeRef.ofTy t).key ≤ t.total isOpening :=
      (within_view outsideKeys_opening t).key_le hknown
    exact Nat.lt_of_le_of_lt hle hmore

end Lost

/-- A type with more parentheses is a reference as before, or its reference is in parentheses. -/
theorem heldAlike_or_lost {t t' : Ty} (h : t.Wrapped t') :
    t.HeldAlike t' ∨ (t.isReference = true ∧ t'.isReference = false) := by
  cases hborrowed : t.isReference with
  | false =>
    refine .inl ⟨h, ?_⟩
    rw [hborrowed]
    cases h with
    | reference _ _ => cases hborrowed
    | _ => rfl
  | true =>
    cases hlost : t'.isReference with
    | false => exact .inr ⟨rfl, rfl⟩
    | true => exact .inl ⟨h, hborrowed.trans hlost.symm⟩

theorem sliceShape_ne_unresolved (element : TypeRef) (borrowed : Bool) :
    sliceShape element borrowed ≠ .unresolved := by
  unfold sliceShape
  split
  · exact Shape.named_ne_unresolved
  · intro h
    cases h

theorem Source.Ty.HeldAlike.isUnresolved_eq {t t' : Ty} (h : t.HeldAlike t') :
    (TypeRef.ofTy t).isUnresolved = (TypeRef.ofTy t').isUnresolved := by
  -- An option that is left in the base and the kind of the base decide, not what stands in it.
  have hshapes : (TypeRef.ofTy t).shape = .unresolved ↔ (TypeRef.ofTy t').shape = .unresolved := by
    rw [shape_ofTy, shape_ofTy, ← h.base.isSome_optional?, ← h.isReference_eq]
    cases t.base.optional?.isSome with
    | true => exact Iff.rfl
    | false =>
      rw [if_neg Bool.false_ne_true, if_neg Bool.false_ne_true]
      cases h.base with
      | path hpath hpath' _ =>
        rw [shape_of_path hpath, shape_of_path hpath', pathShape, pathShape]
        split
        · exact Iff.rfl
        split
        · exact Iff.rfl
        · exact iff_of_false Shape.named_ne_unresolved Shape.named_ne_unresolved
      | slice hslice hslice' _ =>
        rw [hslice, hslice']
        exact iff_of_false (sliceShape_ne_unresolved _ _) (sliceShape_ne_unresolved _ _)
      | array harray harray' _ _ =>
        rw [harray, harray']
        exact iff_of_false Shape.named_ne_unresolved Shape.named_ne_unresolved
      | unnamed hshape hshape' _ _ => exact iff_of_true (hshape _) (hshape' _)
  rw [Bool.eq_iff_iff, TypeRef.isUnresolved_iff, TypeRef.isUnresolved_iff, hshapes]

/-- What a resolved type and the same type with more parentheses are by their bases: both a borrowed
text, paths of one name, slices, or arrays. -/
inductive Source.Ty.HeldAlike.Layer (t t' : Ty) : Prop where
  | text (hborrowed : t.isReference = true) {types types' : List Ty}
    (hpath : t.base.path? = some ("str", types)) (hpath' : t'.base.path? = some ("str", types'))
    (hshape : (TypeRef.ofTy t).shape = .named "String" [])
    (hshape' : (TypeRef.ofTy t').shape = .named "String" [])
  | path {name : String} {types types' : List Ty} (hpath : t.base.path? = some (name, types))
    (hpath' : t'.base.path? = some (name, types'))
    (hother : t.isReference = true → name ≠ "str")
    (inside : List.Forall₂ Ty.Wrapped types types')
    (hshape : (TypeRef.ofTy t).shape = .named name (types.map TypeRef.ofTy))
    (hshape' : (TypeRef.ofTy t').shape = .named name (types'.map TypeRef.ofTy))
  | slice {element element' : Ty} (hslice : t.base = .slice element)
    (hslice' : t'.base = .slice element') (inside : element.Wrapped element')
    (hshape : (TypeRef.ofTy t).shape = sliceShape (TypeRef.ofTy element) t.isReference)
    (hshape' : (TypeRef.ofTy t').shape = sliceShape (TypeRef.ofTy element') t.isReference)
  | array {element element' : Ty} {length length' : List Token}
    (harray : t.base = .array element length) (harray' : t'.base = .array element' length')
    (inside : element.Wrapped element') (lengths : Token.Wrapped length length')
    (hshape : (TypeRef.ofTy t).shape = arrayShape (TypeRef.ofTy element) length)
    (hshape' : (TypeRef.ofTy t').shape = arrayShape (TypeRef.ofTy element') length')

theorem Source.Ty.HeldAlike.layer {t t' : Ty} (h : t.HeldAlike t')
    (hknown : (TypeRef.ofTy t).isUnresolved = false) : HeldAlike.Layer t t' := by
  obtain ⟨hshape, hne⟩ := shape_of_resolved hknown
  obtain ⟨hshape', -⟩ := shape_of_resolved (h.isUnresolved_eq ▸ hknown)
  rw [← h.isReference_eq] at hshape'
  cases h.base with
  | path hpath hpath' inside =>
    rename_i name types types'
    rw [hshape] at hne
    rw [shape_of_path hpath] at hshape hne
    rw [shape_of_path hpath'] at hshape'
    unfold pathShape at hshape hshape' hne
    -- The type that a declaration calls its own is not resolved.
    by_cases hself : (name == "Self") = true
    · rw [if_pos hself] at hne
      exact absurd rfl hne
    · rw [if_neg hself] at hshape hshape'
      by_cases htext : (t.isReference && name == "str") = true
      · rw [if_pos htext] at hshape hshape'
        obtain ⟨hborrowed, hname⟩ := Bool.and_eq_true_iff.1 htext
        rw [beq_iff_eq.1 hname] at hpath hpath'
        exact .text hborrowed hpath hpath' hshape hshape'
      · rw [if_neg htext] at hshape hshape'
        refine .path hpath hpath' (fun hborrowed hname => htext ?_) inside hshape hshape'
        rw [hborrowed, hname]
        rfl
  | slice hslice hslice' inside =>
    rw [hslice] at hshape
    rw [hslice'] at hshape'
    exact .slice hslice hslice' inside hshape hshape'
  | array harray harray' inside lengths =>
    rw [harray] at hshape
    rw [harray'] at hshape'
    exact .array harray harray' inside lengths hshape hshape'
  | unnamed hunresolved _ _ _ => exact absurd (hshape.trans (hunresolved _)) hne

/-! Parts of a type are written with less. -/

namespace Source.Ty

theorem total_of_path (p : Char → Bool) {t u : Ty} {name : String} {types : List Ty}
    (hpath : t.path? = some (name, types)) (hu : u ∈ types) :
    amount p "<" + u.total p ≤ t.total p := by
  cases t with
  | plain q written =>
    cases hpath
    cases hu
  | applied q written turbofish args trailing =>
    cases hpath
    have hle := Arg.total_le_totals p hu
    have hmarks : amount p "<" ≤ Token.total p (Arg.marks trailing (argTokens args)) := by
      rw [Arg.marks, Token.angled, List.append_assoc, Token.total_append, Token.total_cons]
      exact Nat.le_add_right_of_le (Nat.le_add_right _ _)
    rw [Ty.total_applied]
    omega
  | _ => cases hpath

theorem total_unreferenced_le (p : Char → Bool) (t : Ty) : t.unreferenced.total p ≤ t.total p := by
  cases t with
  | reference modifiers referent =>
    have hbare := total_bare_le p referent
    rw [Ty.total_reference]
    change referent.bare.total p ≤ _
    omega
  | _ => exact total_bare_le p _

theorem total_base_le (p : Char → Bool) (t : Ty) : t.base.total p ≤ t.total p := by
  have hunreferenced := total_unreferenced_le p t
  cases hoption : t.unreferenced.optional? with
  | none =>
    rw [base_of_not_optional hoption]
    exact hunreferenced
  | some inner =>
    have hbare := total_bare_le p inner
    have hinner := total_of_optional p (o := t.unreferenced) (by rw [bare_unreferenced, hoption])
    rw [base, hoption]
    change inner.bare.total p ≤ _
    omega

/-- How much is written of a type. -/
def extent (t : Ty) : Nat :=
  t.total fun _ => true

section Extent

variable {t u : Ty}

theorem extent_lt_of_path {name : String} {types : List Ty} (h : t.base.path? = some (name, types))
    (hu : u ∈ types) : u.extent < t.extent := by
  have hmark : amount (fun _ => true) "<" = 1 := rfl
  have hbase := total_base_le (fun _ => true) t
  have hpart := total_of_path (fun _ => true) h hu
  unfold extent
  omega

theorem extent_lt_of_slice (h : t.base = .slice u) : u.extent < t.extent := by
  have hmark : amount (fun _ => true) "[" = 1 := rfl
  have hbase := total_base_le (fun _ => true) t
  rw [h, Ty.total_slice] at hbase
  unfold extent
  omega

theorem extent_lt_of_array {length : List Token} (h : t.base = .array u length) :
    u.extent < t.extent := by
  have hmark : amount (fun _ => true) "[" = 1 := rfl
  have hbase := total_base_le (fun _ => true) t
  rw [h, Ty.total_array] at hbase
  unfold extent
  omega

end Extent

end Source.Ty

end TypedPreferences
