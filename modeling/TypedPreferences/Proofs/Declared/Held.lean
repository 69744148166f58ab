import TypedPreferences.Proofs.Declared.Amounts

/-! How the values of a declared type are held: behind a reference or not, and as an option or not.
The two modifiers that a type's identity keeps tell this exactly, for every type that is resolved.
-/

namespace TypedPreferences

open Source Source.Ty

/-- How a value is held, whatever it is: by itself, as an option, or behind a reference. -/
inductive Holding where
  | itself
  | optional (inner : Holding)
  | borrowed (inner : Holding)
deriving DecidableEq, Repr

namespace Holding

/-- What stands behind the references around it. -/
def target : Holding → Holding
  | borrowed inner => inner.target
  | h => h

def options : Holding → Nat
  | itself => 0
  | optional inner => inner.options + 1
  | borrowed inner => inner.options

def ofNullable (nullable : Bool) : Holding :=
  if nullable then optional itself else itself

theorem options_ofNullable_le_one (nullable : Bool) : (ofNullable nullable).options ≤ 1 := by
  cases nullable <;> decide

end Holding

namespace TypeRef

/-- How the values of a type are held apart from a reference around them. -/
def content (t : TypeRef) : Holding :=
  .ofNullable t.nullable

/-- How the values of a type are held, by the modifiers of its identity. -/
def holding (t : TypeRef) : Holding :=
  if t.byRef then .borrowed t.content else t.content

variable {t : TypeRef}

theorem holding_of_borrowed (h : t.byRef = true) : t.holding = .borrowed t.content :=
  if_pos h

theorem holding_of_owned (h : t.byRef = false) : t.holding = t.content := by
  rw [holding, h]
  rfl

theorem target_holding (t : TypeRef) : t.holding.target = t.content := by
  unfold holding content
  cases t.nullable <;> cases t.byRef <;> rfl

theorem options_holding (t : TypeRef) : t.holding.options = t.content.options := by
  unfold holding
  cases t.byRef <;> rfl

theorem options_holding_le_one (t : TypeRef) : t.holding.options ≤ 1 := by
  rw [options_holding]
  exact Holding.options_ofNullable_le_one _

/-- Types with one base are resolved. -/
theorem resolved_of_sameBase {a b : TypeRef} (h : a.sameBase b = true) :
    a.isUnresolved = false ∧ b.isUnresolved = false := by
  obtain ⟨hsame, hknown⟩ : a.shape.same b.shape = true ∧ a.isUnresolved = false := by
    simpa [sameBase] using h
  refine ⟨hknown, ?_⟩
  cases hb : b.isUnresolved with
  | false => rfl
  | true =>
    rw [(isUnresolved_iff b).1 hb] at hsame
    cases ha : a.shape with
    | unresolved =>
      rw [(isUnresolved_iff a).2 ha] at hknown
      cases hknown
    | named name args =>
      rw [ha] at hsame
      cases hsame
    | variadic =>
      rw [ha] at hsame
      cases hsame

end TypeRef

/-- How the values of a type are held, by how the type is written. -/
inductive Source.Ty.HeldAs : Ty → Holding → Prop where
  | reference {modifiers : List Token} {referent : Ty} {h : Holding} (inside : HeldAs referent h) :
    HeldAs (.reference modifiers referent) (.borrowed h)
  | paren {inner : Ty} {h : Holding} (inside : HeldAs inner h) : HeldAs (.paren inner) h
  | option {t inner : Ty} {h : Holding} (holds : t.optional? = some inner)
    (inside : HeldAs inner h) : HeldAs t (.optional h)
  | itself {t : Ty} (bare : t.bare = t) (owned : t.isReference = false)
    (present : t.optional? = none) : HeldAs t .itself

namespace Source.Ty

theorem HeldAs.of_bare {h : Holding} : ∀ {t : Ty}, t.bare.HeldAs h → t.HeldAs h
  | .paren _, hbare => .paren (HeldAs.of_bare hbare)
  | .plain _ _, hbare => hbare
  | .applied _ _ _ _ _, hbare => hbare
  | .projection _ _, hbare => hbare
  | .reference _ _, hbare => hbare
  | .slice _, hbare => hbare
  | .array _ _, hbare => hbare
  | .other _, hbare => hbare

theorem shape_of_reference {t : Ty} (h : t.isReference = true) (borrowed : Bool) :
    (view t).shape borrowed = .unresolved := by
  cases t with
  | reference _ _ => rfl
  | _ => cases h

end Source.Ty

theorem byRef_ofTy (t : Ty) : (TypeRef.ofTy t).byRef = t.isReference := by
  obtain ⟨-, -, hborrowed⟩ := target_eq t
  rw [← hborrowed, TypeRef.ofTy, View.toRef]
  dsimp only
  split <;> rfl

section Resolved

variable {t : Ty} (hknown : (TypeRef.ofTy t).isUnresolved = false)

include hknown

/-- The base of a resolved type is no reference and no option once more. -/
theorem heldAs_base : t.base.HeldAs .itself := by
  have hshape : (TypeRef.ofTy t).shape ≠ .unresolved := by
    intro h
    rw [(TypeRef.isUnresolved_iff _).2 h] at hknown
    cases hknown
  rw [shape_ofTy] at hshape
  -- An option or a reference that is left in the base would leave the type unresolved.
  have hpresent : t.base.optional? = none := by
    cases hoption : t.base.optional? with
    | none => rfl
    | some inner => exact absurd (by rw [hoption]; rfl) hshape
  have howned : t.base.isReference = false := by
    cases hborrowed : t.base.isReference with
    | false => rfl
    | true =>
      rw [hpresent] at hshape
      exact absurd (shape_of_reference hborrowed _) hshape
  exact .itself (bare_base t) howned hpresent

theorem heldAs_unreferenced : t.unreferenced.HeldAs (TypeRef.ofTy t).content := by
  have hbase := heldAs_base hknown
  rw [TypeRef.content, nullable_ofTy]
  cases hoption : t.unreferenced.optional? with
  | none =>
    rw [base_of_not_optional hoption] at hbase
    exact hbase
  | some inner =>
    have hinner : t.base = inner.bare := by
      rw [base, hoption]
    rw [hinner] at hbase
    exact .option hoption (.of_bare hbase)

/-- The modifiers of a resolved type tell how it is written. -/
theorem heldAs_ofTy : t.HeldAs (TypeRef.ofTy t).holding := by
  have hinside := heldAs_unreferenced hknown
  have hbyRef := byRef_ofTy t
  unfold TypeRef.holding
  -- A reference is taken off only where it stands outermost.
  cases t with
  | reference modifiers referent =>
    rw [hbyRef]
    exact .reference (.of_bare hinside)
  | _ =>
    rw [hbyRef]
    exact .of_bare hinside

end Resolved

end TypedPreferences
