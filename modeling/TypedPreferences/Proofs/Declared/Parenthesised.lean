import TypedPreferences.Proofs.Declared.GrowingKeys

/-! Parentheses in a type, and its identity. The identity looks through parentheses, but not through
those around a reference; and where it looks at the name of a type that is not resolved, it sees all
the parentheses that are written. -/

namespace TypedPreferences

open Source Text Bracketing Source.Ty

/-- What of a type another type looks at: the name by which it is shown, or the type as a whole. -/
inductive Regard where
  | name
  | whole
deriving DecidableEq, Repr

namespace Regard

/-- Whether two types are taken for the same. -/
def Agree : Regard → TypeRef → TypeRef → Prop
  | name, s, t => s.key = t.key
  | whole, s, t => s.same t = true

/-- A part of a type that counts for what is looked at of it, without parentheses and with them, and
what is looked at of the part. Of a slice of bytes and of an array the elements count by name. -/
inductive Part (r : Regard) (t t' : Ty) : Regard → Ty → Ty → Prop where
  | argument {name : String} {types types' : List Ty} {u u' : Ty}
    (hpath : t.base.path? = some (name, types)) (hpath' : t'.base.path? = some (name, types'))
    (hother : t.isReference = true → name ≠ "str") (hmem : (u, u') ∈ types.zip types') :
    Part r t t' r u u'
  | byte {element element' : Ty} (hslice : t.base = .slice element)
    (hslice' : t'.base = .slice element') (hbytes : (TypeRef.ofTy t).isVariadic = false) :
    Part r t t' .name element element'
  | element {element element' : Ty} {length length' : List Token}
    (harray : t.base = .array element length) (harray' : t'.base = .array element' length') :
    Part r t t' .name element element'

/-- Where the parentheses that a type has more than another are noticed: around a reference, unless
the type is not resolved anyway; in a type that is not resolved, where its name is looked at; in the
length of an array; and in the parts that count. -/
inductive Notices : Regard → Ty → Ty → Prop where
  | reference {r : Regard} {t t' : Ty} (borrowed : t.isReference = true)
    (lost : t'.isReference = false)
    (counts : r = .whole → (TypeRef.ofTy t).isUnresolved = true →
      (TypeRef.ofTy t).nullable = true) : Notices r t t'
  | written {t t' : Ty} (unresolved : (TypeRef.ofTy t).isUnresolved = true) (more : t ≠ t') :
    Notices .name t t'
  | length {r : Regard} {t t' : Ty} (resolved : (TypeRef.ofTy t).isUnresolved = false)
    (more : t.base.length? ≠ t'.base.length?) : Notices r t t'
  | part {r s : Regard} {t t' u u' : Ty} (resolved : (TypeRef.ofTy t).isUnresolved = false)
    (part : r.Part t t' s u u') (inside : s.Notices u u') : Notices r t t'

section Part

variable {r : Regard} {t t' : Ty} {P : Regard → Ty → Ty → Prop}

/-- The parts of a path that count are its arguments, one by one. -/
theorem forall_part_of_path {name : String} {types types' : List Ty}
    (hpath : t.base.path? = some (name, types)) (hpath' : t'.base.path? = some (name, types')) :
    (∀ s u u', r.Part t t' s u u' → P s u u') ↔
      ((t.isReference = true → name ≠ "str") → ∀ u u', (u, u') ∈ types.zip types' → P r u u') := by
  refine ⟨fun hall hother u u' hmem => hall r u u' (.argument hpath hpath' hother hmem), ?_⟩
  rintro hall s u u' (⟨hpath₂, hpath₂', hother, hmem⟩ | ⟨hslice, -, -⟩ | ⟨harray, -⟩)
  · rw [hpath] at hpath₂
    rw [hpath'] at hpath₂'
    cases hpath₂
    cases hpath₂'
    exact hall hother u u' hmem
  · rw [hslice] at hpath
    cases hpath
  · rw [harray] at hpath
    cases hpath

theorem forall_part_of_slice {element element' : Ty} (hslice : t.base = .slice element)
    (hslice' : t'.base = .slice element') :
    (∀ s u u', r.Part t t' s u u' → P s u u') ↔
      ((TypeRef.ofTy t).isVariadic = false → P .name element element') := by
  refine ⟨fun hall hbytes => hall .name element element' (.byte hslice hslice' hbytes), ?_⟩
  rintro hall s u u' (⟨hpath, -, -, -⟩ | ⟨hslice₂, hslice₂', hbytes⟩ | ⟨harray, -⟩)
  · rw [hslice] at hpath
    cases hpath
  · rw [hslice] at hslice₂
    rw [hslice'] at hslice₂'
    cases hslice₂
    cases hslice₂'
    exact hall hbytes
  · rw [hslice] at harray
    cases harray

theorem forall_part_of_array {element element' : Ty} {length length' : List Token}
    (harray : t.base = .array element length) (harray' : t'.base = .array element' length') :
    (∀ s u u', r.Part t t' s u u' → P s u u') ↔ P .name element element' := by
  refine ⟨fun hall => hall .name element element' (.element harray harray'), ?_⟩
  rintro hall s u u' (⟨hpath, -, -, -⟩ | ⟨hslice, -, -⟩ | ⟨harray₂, harray₂'⟩)
  · rw [harray] at hpath
    cases hpath
  · rw [harray] at hslice
    cases hslice
  · rw [harray] at harray₂
    rw [harray'] at harray₂'
    cases harray₂
    cases harray₂'
    exact hall

/-- A part that counts has parentheses added like the type, and less is written of it. -/
theorem Part.wrapped {s : Regard} {u u' : Ty} (part : r.Part t t' s u u') (h : t.HeldAlike t') :
    u.Wrapped u' ∧ u.extent < t.extent := by
  have hwrapped := h.base_wrapped
  cases part with
  | argument hpath hpath' _ hmem =>
    have hu := (List.of_mem_zip hmem).1
    exact ⟨List.forall₂_zip (hwrapped.of_path hpath hpath') hmem, extent_lt_of_path hpath hu⟩
  | byte hslice hslice' _ =>
    rw [hslice, hslice'] at hwrapped
    cases hwrapped with
    | slice inside => exact ⟨inside, extent_lt_of_slice hslice⟩
  | element harray harray' =>
    rw [harray, harray'] at hwrapped
    cases hwrapped with
    | array inside _ => exact ⟨inside, extent_lt_of_array harray⟩

end Part

/-- What is noticed of a type as a whole is noticed by its name. -/
theorem Notices.by_name {r : Regard} {t t' : Ty} (h : r.Notices t t') : name.Notices t t' := by
  induction h with
  | reference borrowed lost _ => exact .reference borrowed lost nofun
  | written unresolved more => exact .written unresolved more
  | length resolved more => exact .length resolved more
  | part resolved part inside ih =>
    cases part with
    | argument hpath hpath' hother hmem =>
      exact .part resolved (.argument hpath hpath' hother hmem) ih
    | byte hslice hslice' hbytes => exact .part resolved (.byte hslice hslice' hbytes) inside
    | element harray harray' => exact .part resolved (.element harray harray') inside

end Regard

/-! Resolved types that are built alike: they agree when the parts that count do. -/

theorem displayKeys_eq_iff {types types' : List Ty} (h : List.Forall₂ Ty.Wrapped types types') :
    displayKeys (types.map TypeRef.ofTy) = displayKeys (types'.map TypeRef.ofTy) ↔
      List.Forall₂ (fun u u' => (TypeRef.ofTy u).key = (TypeRef.ofTy u').key) types types' := by
  induction h with
  | nil => exact iff_of_true rfl .nil
  | cons hwrapped _ ih =>
    rw [List.map_cons, List.map_cons, displayKeys, displayKeys, List.cons.injEq,
      displayKey_eq_iff hwrapped, ih, List.forall₂_cons]

theorem sameAll_iff {types types' : List Ty} :
    sameAll (types.map TypeRef.ofTy) (types'.map TypeRef.ofTy) = true ↔
      List.Forall₂ (fun u u' => (TypeRef.ofTy u).same (TypeRef.ofTy u') = true) types types' := by
  induction types generalizing types' with
  | nil =>
    cases types' with
    | nil => exact iff_of_true rfl .nil
    | cons _ _ => exact iff_of_false nofun nofun
  | cons t types ih =>
    cases types' with
    | nil => exact iff_of_false nofun nofun
    | cons t' types' =>
      rw [List.map_cons, List.map_cons, sameAll, Bool.and_eq_true_iff, ih, List.forall₂_cons]

theorem same_named_iff {name name' : String} {args args' : List TypeRef} :
    (Shape.named name args).same (.named name' args') = true ↔
      name = name' ∧ sameAll args args' = true := by
  rw [Shape.same, Bool.and_eq_true_iff, beq_iff_eq]

namespace Source.Ty.HeldAlike

variable {t t' : Ty} (h : t.HeldAlike t')

include h

theorem same_iff : (TypeRef.ofTy t).same (TypeRef.ofTy t') = true ↔
    (TypeRef.ofTy t).shape.same (TypeRef.ofTy t').shape = true := by
  rw [TypeRef.same_eq, h.nullable_eq, beq_self_eq_true, Bool.and_true]

/-- Types of one shape agree, however they are looked at. -/
theorem agree_of_shape_eq (r : Regard) (hne : (TypeRef.ofTy t').shape ≠ .unresolved)
    (hshape : (TypeRef.ofTy t).shape = (TypeRef.ofTy t').shape) :
    r.Agree (TypeRef.ofTy t) (TypeRef.ofTy t') := by
  cases r with
  | name =>
    rw [Regard.Agree, key_ofTy, key_ofTy, hshape]
    exact Shape.key_eq hne t t'
  | whole =>
    rw [Regard.Agree, h.same_iff, hshape]
    exact Shape.same_refl _

/-- Types of a path agree when their arguments do. -/
theorem agree_path_iff (r : Regard) {name : String} {types types' : List Ty}
    (inside : List.Forall₂ Ty.Wrapped types types')
    (hshape : (TypeRef.ofTy t).shape = .named name (types.map TypeRef.ofTy))
    (hshape' : (TypeRef.ofTy t').shape = .named name (types'.map TypeRef.ofTy)) :
    r.Agree (TypeRef.ofTy t) (TypeRef.ofTy t') ↔
      ∀ u u', (u, u') ∈ types.zip types' → r.Agree (TypeRef.ofTy u) (TypeRef.ofTy u') := by
  have hargs : r.Agree (TypeRef.ofTy t) (TypeRef.ofTy t') ↔
      List.Forall₂ (fun u u' => r.Agree (TypeRef.ofTy u) (TypeRef.ofTy u')) types types' := by
    cases r with
    | name =>
      have hgrows := grows_displayKeys <| inside.imp fun u u' hwrapped =>
        grows_displayKey hwrapped hwrapped.grows_key
      refine Iff.trans ?_ (displayKeys_eq_iff inside)
      rw [Regard.Agree, key_ofTy, key_ofTy, hshape, hshape']
      exact key_named_eq_iff hgrows t t'
    | whole =>
      refine Iff.trans ?_ sameAll_iff
      rw [Regard.Agree, h.same_iff, hshape, hshape', same_named_iff]
      exact and_iff_right rfl
  rw [hargs, List.forall₂_iff_zip]
  exact ⟨fun hall u u' hmem => hall.2 hmem, fun hall => ⟨inside.length_eq, hall _ _⟩⟩

/-- Slices of bytes agree when their elements have one name. -/
theorem agree_slice_iff (r : Regard) {element element' : Ty} (inside : element.Wrapped element')
    (hsame : (TypeRef.ofTy element).key = (TypeRef.ofTy element').key →
      (TypeRef.ofTy element).same (TypeRef.ofTy element') = true)
    (hshape : (TypeRef.ofTy t).shape = sliceShape (TypeRef.ofTy element) t.isReference)
    (hshape' : (TypeRef.ofTy t').shape = sliceShape (TypeRef.ofTy element') t.isReference) :
    r.Agree (TypeRef.ofTy t) (TypeRef.ofTy t') ↔ ((TypeRef.ofTy t).isVariadic = false →
      (TypeRef.ofTy element).key = (TypeRef.ofTy element').key) := by
  rcases slice_cases inside inside.grows_key t.isReference with ⟨hruns, hruns'⟩ | ⟨hborrowed, hbyte⟩
  -- Runs of elements agree, whatever the elements are.
  · rw [hruns] at hshape
    rw [hruns'] at hshape'
    have hvariadic : (TypeRef.ofTy t).isVariadic = true := by
      rw [TypeRef.isVariadic, hshape]
    have hagree := h.agree_of_shape_eq r (hshape' ▸ nofun) (hshape.trans hshape'.symm)
    exact iff_of_true hagree fun hbytes => absurd (hvariadic.symm.trans hbytes) nofun
  · rw [hborrowed] at hshape hshape'
    have hbytes : (TypeRef.ofTy t).isVariadic = false := by
      rw [TypeRef.isVariadic, hshape, sliceShape_of_isByte hbyte]
    rw [forall_prop_of_true hbytes]
    -- With parentheses the element is a byte again, or the slice is a run of elements.
    by_cases hbyte' : (TypeRef.ofTy element').IsByte
    · have hkey : (TypeRef.ofTy element).key = (TypeRef.ofTy element').key :=
        hbyte.1.trans hbyte'.1.symm
      refine iff_of_true ?_ hkey
      cases r with
      | name =>
        rw [Regard.Agree, key_ofTy, key_ofTy, hshape, hshape', key_sliceShape_of_isByte hbyte,
          key_sliceShape_of_isByte hbyte']
      | whole =>
        rw [Regard.Agree, h.same_iff, hshape, hshape', sliceShape_of_isByte hbyte,
          sliceShape_of_isByte hbyte', same_named_iff]
        exact ⟨rfl, Bool.and_eq_true_iff.2 ⟨hsame hkey, rfl⟩⟩
    · refine iff_of_false ?_ fun hkey => hbyte' (isByte_of_key_eq inside hbyte hkey)
      rw [sliceShape_of_not_isByte fun _ => hbyte'] at hshape'
      cases r with
      | name =>
        have hne : "Vec<u8>" ≠ "[..]" := by decide
        rw [Regard.Agree, key_ofTy, key_ofTy, hshape, hshape', key_sliceShape_of_isByte hbyte]
        exact hne
      | whole =>
        rw [Regard.Agree, h.same_iff, hshape, hshape', sliceShape_of_isByte hbyte]
        nofun

/-- Arrays agree when their elements have one name and their lengths are spelled alike. -/
theorem agree_array_iff (r : Regard) {element element' : Ty} {length length' : List Token}
    (inside : element.Wrapped element') (lengths : Token.Wrapped length length')
    (hshape : (TypeRef.ofTy t).shape = arrayShape (TypeRef.ofTy element) length)
    (hshape' : (TypeRef.ofTy t').shape = arrayShape (TypeRef.ofTy element') length') :
    r.Agree (TypeRef.ofTy t) (TypeRef.ofTy t') ↔
      length = length' ∧ (TypeRef.ofTy element).key = (TypeRef.ofTy element').key := by
  rw [and_comm, ← key_arrayShape_eq_iff inside.grows_key lengths t t']
  cases r with
  | name => rw [Regard.Agree, key_ofTy, key_ofTy, hshape, hshape']
  | whole =>
    rw [Regard.Agree, h.same_iff, hshape, hshape', arrayShape, arrayShape, same_named_iff]
    exact and_iff_left rfl

/-- A resolved type agrees with itself with more parentheses when the parts of it that count do. -/
theorem agree_iff_parts (r : Regard) (hknown : (TypeRef.ofTy t).isUnresolved = false)
    (hsame : ∀ u, u.extent < t.extent → ∀ u', u.Wrapped u' →
      (TypeRef.ofTy u).key = (TypeRef.ofTy u').key →
        (TypeRef.ofTy u).same (TypeRef.ofTy u') = true) :
    r.Agree (TypeRef.ofTy t) (TypeRef.ofTy t') ↔
      t.base.length? = t'.base.length? ∧
        ∀ s u u', r.Part t t' s u u' → s.Agree (TypeRef.ofTy u) (TypeRef.ofTy u') := by
  -- By the outermost layer, which parentheses do not change; the parts are those of one layer.
  cases h.layer hknown with
  | text hborrowed hpath hpath' hshape hshape' =>
    have hlengths := (length?_of_path hpath).trans (length?_of_path hpath').symm
    have hagree := h.agree_of_shape_eq r (hshape' ▸ nofun) (hshape.trans hshape'.symm)
    rw [Regard.forall_part_of_path hpath hpath']
    exact iff_of_true hagree ⟨hlengths, fun hother => absurd rfl (hother hborrowed)⟩
  | path hpath hpath' hother inside hshape hshape' =>
    have hlengths := (length?_of_path hpath).trans (length?_of_path hpath').symm
    rw [h.agree_path_iff r inside hshape hshape', Regard.forall_part_of_path hpath hpath',
      and_iff_right hlengths, forall_prop_of_true hother]
  | @slice element element' hslice hslice' inside hshape hshape' =>
    have hkey := hsame element (extent_lt_of_slice hslice) element' inside
    have hlengths : t.base.length? = t'.base.length? := by
      rw [hslice, hslice']
      rfl
    rw [h.agree_slice_iff r inside hkey hshape hshape', Regard.forall_part_of_slice hslice hslice',
      and_iff_right hlengths]
    rfl
  | @array element element' length length' harray harray' inside lengths hshape hshape' =>
    have hlengths : t.base.length? = t'.base.length? ↔ length = length' := by
      rw [harray, harray']
      exact Option.some_inj
    rw [h.agree_array_iff r inside lengths hshape hshape', hlengths,
      Regard.forall_part_of_array harray harray']
    rfl

end Source.Ty.HeldAlike

/-! Types that are not resolved. -/

section Unresolved

variable {a b : TypeRef} (hb : b.isUnresolved = true)

include hb

theorem same_of_unresolved (ha : a.isUnresolved = true) : a.shape.same b.shape = true := by
  rw [(TypeRef.isUnresolved_iff a).1 ha, (TypeRef.isUnresolved_iff b).1 hb]
  rfl

theorem not_same_of_resolved (ha : a.isUnresolved = false) : a.shape.same b.shape = false := by
  rw [(TypeRef.isUnresolved_iff b).1 hb]
  cases hshape : a.shape with
  | unresolved =>
    rw [(TypeRef.isUnresolved_iff a).2 hshape] at ha
    cases ha
  | _ => rfl

end Unresolved

section Noticed

variable {t t' : Ty}

/-- Types that are not resolved have one name only where they are written alike. -/
theorem key_eq_iff_of_unresolved (h : t.Wrapped t') (hknown : (TypeRef.ofTy t).isUnresolved = true)
    (hknown' : (TypeRef.ofTy t').isUnresolved = true) :
    (TypeRef.ofTy t).key = (TypeRef.ofTy t').key ↔ t = t' := by
  refine ⟨fun hkey => ?_, fun heq => by rw [heq]⟩
  have hamount := congrArg (amount isOpening) hkey
  rw [amount_key_of_unresolved _ hknown, amount_key_of_unresolved _ hknown'] at hamount
  exact h.grows.eq_of_size_eq hamount

theorem agree_iff_of_lost (r : Regard) (h : t.Wrapped t') (hborrowed : t.isReference = true)
    (hlost : t'.isReference = false) :
    r.Agree (TypeRef.ofTy t) (TypeRef.ofTy t') ↔ ¬ r.Notices t t' := by
  obtain ⟨hunresolved, howned⟩ := unresolved_of_lost h hborrowed hlost
  cases r with
  | name =>
    have hlt := amount_key_lt_of_lost h hborrowed hlost
    refine iff_of_false (fun hkey => ?_) fun hnone => hnone (.reference hborrowed hlost nofun)
    rw [Regard.Agree] at hkey
    rw [hkey] at hlt
    exact Nat.lt_irrefl _ hlt
  | whole =>
    rw [Regard.Agree, TypeRef.same_eq, howned, Bool.and_eq_true_iff, beq_iff_eq]
    cases hknown : (TypeRef.ofTy t).isUnresolved with
    | false =>
      rw [not_same_of_resolved hunresolved hknown]
      refine iff_of_false nofun fun hnone => hnone (.reference hborrowed hlost fun _ htrue => ?_)
      rw [hknown] at htrue
      cases htrue
    | true =>
      -- Neither is resolved, so that only the nullability can tell them apart.
      rw [and_iff_right (same_of_unresolved hunresolved hknown)]
      constructor
      · rintro hnullable (⟨-, -, hcounts⟩ | ⟨-, -⟩ | ⟨hresolved, -⟩ | ⟨hresolved, -, -⟩)
        · rw [hcounts rfl hknown] at hnullable
          cases hnullable
        · rw [hknown] at hresolved
          cases hresolved
        · rw [hknown] at hresolved
          cases hresolved
      · intro hnone
        by_contra hnullable
        exact hnone (.reference hborrowed hlost fun _ _ => by simpa using hnullable)

theorem Source.Ty.HeldAlike.agree_iff_of_unresolved (r : Regard) (h : t.HeldAlike t')
    (hknown : (TypeRef.ofTy t).isUnresolved = true) :
    r.Agree (TypeRef.ofTy t) (TypeRef.ofTy t') ↔ ¬ r.Notices t t' := by
  have hknown' : (TypeRef.ofTy t').isUnresolved = true := h.isUnresolved_eq ▸ hknown
  -- Where nothing is resolved, only the spelling can be noticed, and only by name.
  have hwritten : r.Notices t t' ↔ r = .name ∧ t ≠ t' := by
    constructor
    · rintro (⟨hborrowed, hlost, -⟩ | ⟨-, hmore⟩ | ⟨hresolved, -⟩ | ⟨hresolved, -, -⟩)
      · rw [h.isReference_eq, hlost] at hborrowed
        cases hborrowed
      · exact ⟨rfl, hmore⟩
      · rw [hknown] at hresolved
        cases hresolved
      · rw [hknown] at hresolved
        cases hresolved
    · rintro ⟨rfl, hmore⟩
      exact .written hknown hmore
  rw [hwritten]
  cases r with
  | name =>
    rw [Regard.Agree, key_eq_iff_of_unresolved h.wrapped hknown hknown', and_iff_right rfl, not_not]
  | whole =>
    rw [Regard.Agree, h.same_iff]
    exact iff_of_true (same_of_unresolved hknown' hknown) nofun

end Noticed

/-- A type agrees with itself with more parentheses exactly where they are not noticed. By recursion
on what is written of the type: parts are smaller, and are looked at as a whole or by name. -/
theorem Source.Ty.Wrapped.agree_iff {t t' : Ty} (h : t.Wrapped t') (r : Regard) :
    r.Agree (TypeRef.ofTy t) (TypeRef.ofTy t') ↔ ¬ r.Notices t t' := by
  rcases heldAlike_or_lost h with halike | ⟨hborrowed, hlost⟩
  · cases hknown : (TypeRef.ofTy t).isUnresolved with
    | true => exact halike.agree_iff_of_unresolved r hknown
    | false =>
      have hsame : ∀ u, u.extent < t.extent → ∀ u', u.Wrapped u' →
          (TypeRef.ofTy u).key = (TypeRef.ofTy u').key →
            (TypeRef.ofTy u).same (TypeRef.ofTy u') = true := by
        intro u _ u' hwrapped hkey
        -- What is not noticed by name is not noticed at all.
        refine (hwrapped.agree_iff .whole).2 fun hnotices => ?_
        exact (hwrapped.agree_iff .name).1 hkey hnotices.by_name
      rw [halike.agree_iff_parts r hknown hsame]
      constructor
      · rintro ⟨hlength, hall⟩ (⟨hborrowed, hlost, -⟩ | ⟨hunresolved, -⟩ | ⟨-, hmore⟩ |
          ⟨-, part, inside⟩)
        · rw [halike.isReference_eq, hlost] at hborrowed
          cases hborrowed
        · rw [hknown] at hunresolved
          cases hunresolved
        · exact hmore hlength
        · obtain ⟨hwrapped, _⟩ := part.wrapped halike
          exact (hwrapped.agree_iff _).1 (hall _ _ _ part) inside
      · intro hnone
        refine ⟨by_contra fun hmore => hnone (.length hknown hmore), fun s u u' part => ?_⟩
        obtain ⟨hwrapped, _⟩ := part.wrapped halike
        exact (hwrapped.agree_iff s).2 fun inside => hnone (.part hknown part inside)
  · exact agree_iff_of_lost r h hborrowed hlost
termination_by t.extent

/-! Types without references and arrays keep their identity. -/

/-- The marks of a reference and of an array. -/
def isSensitive (c : Char) : Bool :=
  c == '&' || c == ';'

section Sensitive

variable {t t' : Ty} (h : t.total isSensitive = 0)

include h

theorem Source.Ty.isReference_of_total : t.isReference = false := by
  cases t with
  | reference modifiers referent =>
    have hmark : amount isSensitive "&" = 1 := rfl
    rw [Ty.total_reference, hmark] at h
    omega
  | _ => rfl

theorem Source.Ty.length?_of_total : t.base.length? = none := by
  have hbase := total_base_le isSensitive t
  cases hb : t.base with
  | array element length =>
    have hmark : amount isSensitive ";" = 1 := rfl
    rw [hb, Ty.total_array, hmark] at hbase
    omega
  | _ => rfl

theorem Source.Ty.total_of_base_path {name : String} {types : List Ty} {u : Ty}
    (hpath : t.base.path? = some (name, types)) (hu : u ∈ types) : u.total isSensitive = 0 := by
  have hbase := total_base_le isSensitive t
  have hpart := total_of_path isSensitive hpath hu
  omega

/-- Without a reference around it, a slice is a run of elements. -/
theorem isVariadic_of_slice (hknown : (TypeRef.ofTy t).isUnresolved = false) {element : Ty}
    (hslice : t.base = .slice element) : (TypeRef.ofTy t).isVariadic = true := by
  obtain ⟨hshape, -⟩ := shape_of_resolved hknown
  have hruns : sliceShape (TypeRef.ofTy element) false = .variadic := sliceShape_of_not_isByte nofun
  rw [hslice, isReference_of_total h] at hshape
  rw [TypeRef.isVariadic, hshape.trans hruns]

theorem not_notices_of_total (hwrapped : t.Wrapped t') : ¬ Regard.whole.Notices t t' := by
  intro hnotices
  -- The parts that are looked at as a whole are arguments, which have no such marks either.
  generalize hwhole : Regard.whole = r at hnotices
  induction hnotices with
  | reference borrowed _ _ =>
    rw [isReference_of_total h] at borrowed
    cases borrowed
  | written _ _ => cases hwhole
  | length _ more =>
    have hnone := length?_of_total h
    rcases heldAlike_or_lost hwrapped with halike | ⟨hborrowed, -⟩
    · exact more (hnone.trans (halike.base.length?_of_none hnone).symm)
    · rw [isReference_of_total h] at hborrowed
      cases hborrowed
  | part resolved part _ ih =>
    rcases heldAlike_or_lost hwrapped with halike | ⟨hborrowed, -⟩
    · have hpart := part.wrapped halike
      cases part with
      | argument hpath _ _ hmem =>
        exact ih (total_of_base_path h hpath (List.of_mem_zip hmem).1) hpart.1 hwhole
      | byte hslice _ hbytes =>
        rw [isVariadic_of_slice h resolved hslice] at hbytes
        cases hbytes
      | element harray _ =>
        have hnone := length?_of_total h
        rw [harray] at hnone
        cases hnone
    · rw [isReference_of_total h] at hborrowed
      cases hborrowed

end Sensitive

/-- Whether two identities have all in common that is kept of a type apart from how it was written. -/
def TypeRef.Identical (s t : TypeRef) : Prop :=
  s.byRef = t.byRef ∧ s.nullable = t.nullable ∧ s.shape.same t.shape = true

/-- A type with more parentheses has the identity that it had exactly where they are not noticed. A
type that is written without references and arrays has it always; a reference in parentheses never,
as it is no reference then and not resolved. -/
theorem identical_iff_unnoticed {t t' : Ty} (h : t.Wrapped t') :
    ((TypeRef.ofTy t).Identical (TypeRef.ofTy t') ↔
        t.isReference = t'.isReference ∧ ¬ Regard.whole.Notices t t') ∧
      (t.total isSensitive = 0 → (TypeRef.ofTy t).Identical (TypeRef.ofTy t')) ∧
      (t.isReference = true → t'.isReference = false →
        (TypeRef.ofTy t').byRef = false ∧ (TypeRef.ofTy t').nullable = false ∧
          (TypeRef.ofTy t').shape = .unresolved) := by
  have hiff : (TypeRef.ofTy t).Identical (TypeRef.ofTy t') ↔
      t.isReference = t'.isReference ∧ ¬ Regard.whole.Notices t t' := by
    rw [← h.agree_iff, Regard.Agree, TypeRef.same_eq, Bool.and_eq_true_iff, beq_iff_eq,
      TypeRef.Identical, byRef_ofTy, byRef_ofTy]
    exact and_congr_right fun _ => and_comm
  refine ⟨hiff, fun hplain => hiff.2 ⟨?_, not_notices_of_total hplain h⟩, fun hborrowed hlost => ?_⟩
  · rcases heldAlike_or_lost h with halike | ⟨hborrowed, -⟩
    · exact halike.isReference_eq
    · rw [isReference_of_total hplain] at hborrowed
      cases hborrowed
  · obtain ⟨hunresolved, howned⟩ := unresolved_of_lost h hborrowed hlost
    exact ⟨(byRef_ofTy t').trans hlost, howned, (TypeRef.isUnresolved_iff _).1 hunresolved⟩

/-- A reference to an `Option` of a list, with parentheses around what it refers to, what the
`Option` holds and the elements of the list, and around the whole as well. -/
theorem identical_iff_unnoticed_lists :
    let list (element : Ty) : Ty := .applied {} "Vec" false [.type element] false
    let option (inner : Ty) : Ty := .applied {} "Option" false [.type inner] false
    let t : Ty := option (list (.plain {} "i32"))
    let t' : Ty := .paren (option (.paren (list (.paren (.plain {} "i32")))))
    t.Wrapped t' ∧ t.total isSensitive = 0 ∧ (TypeRef.ofTy t).Identical (TypeRef.ofTy t') ∧
      (Ty.reference [] t).Wrapped (.reference [] t') ∧
      ¬ Regard.whole.Notices (.reference [] t) (.reference [] t') ∧
      (Ty.reference [] t).Wrapped (.paren (.reference [] t')) ∧
      (TypeRef.ofTy (.paren (.reference [] t'))).shape = .unresolved := by
  intro list option t t'
  have helement : (Ty.plain {} "i32").Wrapped (.paren (.plain {} "i32")) :=
    .parens (.plain "i32" (.mk .nil))
  have hargs : ∀ {name : String} {u u' : Ty}, u.Wrapped u' →
      Ty.Wrapped (.applied {} name false [.type u] false) (.applied {} name false [.type u'] false) :=
    fun hinside => .applied _ false false (.mk .nil) (.type hinside .nil)
  have hwrapped : t.Wrapped t' := .parens (hargs (.parens (hargs helement)))
  -- Without a mark that parentheses act on, they are not noticed wherever they stand.
  have hmarks : t.total isSensitive = 0 := by decide +kernel
  obtain ⟨-, hkept, -⟩ := identical_iff_unnoticed hwrapped
  have hborrowed : (Ty.reference [] t).Wrapped (.reference [] t') := .reference [] hwrapped
  have hidentical : (TypeRef.ofTy (.reference [] t)).Identical (TypeRef.ofTy (.reference [] t')) := by
    refine ⟨rfl, rfl, ?_⟩
    decide +kernel
  obtain ⟨hunnoticed, -, -⟩ := identical_iff_unnoticed hborrowed
  have hlost : (Ty.reference [] t).Wrapped (.paren (.reference [] t')) := .parens hborrowed
  obtain ⟨-, -, hshape⟩ := (identical_iff_unnoticed hlost).2.2 rfl rfl
  exact ⟨hwrapped, hmarks, hkept hmarks, hborrowed, (hunnoticed.1 hidentical).2, hlost, hshape⟩

/-- A borrowed text in parentheses is neither a reference nor resolved, and an array of pairs in
parentheses is another type than the array of the pairs. -/
theorem not_identical_of_wrapped :
    (∃ a b : Ty, typeOf? "&str" = some a ∧ typeOf? "(&str)" = some b ∧
      (TypeRef.ofTy a).byRef = true ∧ (TypeRef.ofTy b).byRef = false ∧
      (TypeRef.ofTy a).shape.same (TypeRef.ofTy b).shape = false) ∧
    (∃ a b : Ty, typeOf? "[(i32, u8); 3]" = some a ∧ typeOf? "[((i32, u8)); 3]" = some b ∧
      (TypeRef.ofTy a).byRef = false ∧ (TypeRef.ofTy b).byRef = false ∧
      (TypeRef.ofTy a).shape.same (TypeRef.ofTy b).shape = false) ∧
    ¬ ∀ t t' : Ty, t.Wrapped t' → (TypeRef.ofTy t).Identical (TypeRef.ofTy t') := by
  -- All that is evaluated is a triple of truth values for each pair of texts.
  have hread : ∀ (text text' : String) (facts : Bool × Bool × Bool),
      (typeOf? text).bind (fun a => (typeOf? text').map fun b =>
        ((TypeRef.ofTy a).byRef, (TypeRef.ofTy b).byRef,
          (TypeRef.ofTy a).shape.same (TypeRef.ofTy b).shape)) = some facts →
      ∃ a b : Ty, typeOf? text = some a ∧ typeOf? text' = some b ∧
        (TypeRef.ofTy a).byRef = facts.1 ∧ (TypeRef.ofTy b).byRef = facts.2.1 ∧
        (TypeRef.ofTy a).shape.same (TypeRef.ofTy b).shape = facts.2.2 := by
    intro text text' facts hfacts
    obtain ⟨a, ha, hfacts⟩ := Option.bind_eq_some_iff.1 hfacts
    obtain ⟨b, hb, rfl⟩ := Option.map_eq_some_iff.1 hfacts
    exact ⟨a, b, ha, hb, rfl, rfl, rfl⟩
  refine ⟨hread "&str" "(&str)" (true, false, false) (by decide +kernel),
    hread "[(i32, u8); 3]" "[((i32, u8)); 3]" (false, false, false) (by decide +kernel),
    fun hclaim => ?_⟩
  have hwrapped : Ty.Wrapped (.reference [] (.plain {} "str"))
      (.paren (.reference [] (.plain {} "str"))) :=
    .parens (.reference [] (.plain "str" (.mk .nil)))
  obtain ⟨hbyRef, -⟩ := hclaim _ _ hwrapped
  cases hbyRef

end TypedPreferences
