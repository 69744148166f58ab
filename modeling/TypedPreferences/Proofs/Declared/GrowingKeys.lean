import Mathlib.Data.List.Forall2
import TypedPreferences.Proofs.Declared.Regrouped

/-! Keys of types with more parentheses: they stay as they were, or have more opening brackets. So a
key can not come back to what it was by parentheses in other places. -/

namespace TypedPreferences

open Source Text Bracketing Source.Ty

theorem Source.Grows.list {α : Type} {size : α → Nat} {as bs : List α}
    (h : List.Forall₂ (Grows size) as bs) : Grows (fun as => (as.map size).sum) as bs := by
  induction h with
  | nil => exact .inl rfl
  | cons hab _ ih =>
    apply hab.map₂ List.cons ih
    intro hlt
    rw [List.map_cons, List.map_cons, List.sum_cons, List.sum_cons]
    exact hlt

section Named

variable {name : String} {args args' : List TypeRef}

theorem amount_key_named (written : Ty) : amount isOpening ((Shape.named name args).key written) =
    amount isOpening name + ((displayKeys args).map (amount isOpening)).sum := by
  rw [outsideKeys_opening.amount_named, displayKeys_eq_map, List.map_map]
  rfl

theorem key_named_congr (h : displayKeys args = displayKeys args') (written written' : Ty) :
    (Shape.named name args).key written = (Shape.named name args').key written' := by
  apply String.toList_inj.1
  rw [Shape.key_named, Shape.key_named, h]

variable (h : Grows (fun keys => (keys.map (amount isOpening)).sum) (displayKeys args)
  (displayKeys args'))

include h

theorem grows_key_named (written written' : Ty) : Grows (amount isOpening)
    ((Shape.named name args).key written) ((Shape.named name args').key written') := by
  rcases h with heq | hlt
  · exact .inl (key_named_congr heq written written')
  · refine .inr ?_
    rw [amount_key_named, amount_key_named]
    exact Nat.add_lt_add_left hlt _

theorem key_named_eq_iff (written written' : Ty) :
    (Shape.named name args).key written = (Shape.named name args').key written' ↔
      displayKeys args = displayKeys args' := by
  refine ⟨fun heq => ?_, fun heq => key_named_congr heq written written'⟩
  have hamount := congrArg (amount isOpening) heq
  rw [amount_key_named, amount_key_named] at hamount
  exact h.eq_of_size_eq (Nat.add_left_cancel hamount)

end Named

section Keys

variable {t t' : Ty} (h : t.Wrapped t')
  (hkey : Grows (amount isOpening) (TypeRef.ofTy t).key (TypeRef.ofTy t').key)

include h

theorem displayKey_eq_iff : (TypeRef.ofTy t).displayKey = (TypeRef.ofTy t').displayKey ↔
    (TypeRef.ofTy t).key = (TypeRef.ofTy t').key := by
  rcases heldAlike_or_lost h with halike | ⟨hborrowed, hlost⟩
  · rw [TypeRef.displayKey_eq, TypeRef.displayKey_eq, halike.nullable_eq]
    cases (TypeRef.ofTy t').nullable with
    | false => exact Iff.rfl
    | true => exact (String.append_left_inj _).trans (String.append_right_inj _)
  · -- A reference in parentheses is shown with them.
    have hlt := amount_key_lt_of_lost h hborrowed hlost
    refine iff_of_false (fun heq => ?_) fun heq => ?_
    · have hamount := congrArg (amount isOpening) heq
      rw [outsideKeys_opening.amount_displayKey, outsideKeys_opening.amount_displayKey] at hamount
      omega
    · rw [heq] at hlt
      exact Nat.lt_irrefl _ hlt

include hkey

theorem grows_displayKey :
    Grows (amount isOpening) (TypeRef.ofTy t).displayKey (TypeRef.ofTy t').displayKey := by
  rcases hkey with heq | hlt
  · exact .inl ((displayKey_eq_iff h).2 heq)
  · refine .inr ?_
    rw [outsideKeys_opening.amount_displayKey, outsideKeys_opening.amount_displayKey]
    exact hlt

end Keys

/-- An element that makes a borrowed slice a run of bytes. -/
def TypeRef.IsByte (t : TypeRef) : Prop :=
  t.key = "u8" ∧ t.nullable = false

theorem sliceShape_of_isByte {element : TypeRef} (h : element.IsByte) :
    sliceShape element true = .named "Vec" [element] := by
  rw [sliceShape, h.1, h.2]
  rfl

theorem sliceShape_of_not_isByte {element : TypeRef} {borrowed : Bool}
    (h : borrowed = true → ¬ element.IsByte) : sliceShape element borrowed = .variadic := by
  rw [sliceShape, if_neg]
  rintro hbyte
  obtain ⟨hbyte, hnullable⟩ := Bool.and_eq_true_iff.1 hbyte
  obtain ⟨hborrowed, hkey⟩ := Bool.and_eq_true_iff.1 hbyte
  exact h hborrowed ⟨beq_iff_eq.1 hkey, Bool.not_eq_eq_eq_not.1 hnullable⟩

section Layers

variable {t t' : Ty} (h : t.Wrapped t')
  (hkey : Grows (amount isOpening) (TypeRef.ofTy t).key (TypeRef.ofTy t').key)

include h

theorem isByte_of_key_eq (hbyte : (TypeRef.ofTy t).IsByte)
    (heq : (TypeRef.ofTy t).key = (TypeRef.ofTy t').key) : (TypeRef.ofTy t').IsByte := by
  refine ⟨heq ▸ hbyte.1, ?_⟩
  rcases heldAlike_or_lost h with halike | ⟨hborrowed, hlost⟩
  · rw [← halike.nullable_eq]
    exact hbyte.2
  · exact (unresolved_of_lost h hborrowed hlost).2

include hkey

theorem isByte_of_wrapped (hbyte : (TypeRef.ofTy t').IsByte) : (TypeRef.ofTy t).IsByte := by
  have hnone : amount isOpening "u8" = 0 := rfl
  have hkey' : (TypeRef.ofTy t).key = "u8" := by
    rcases hkey with heq | hlt
    · exact heq.trans hbyte.1
    · rw [hbyte.1, hnone] at hlt
      exact absurd hlt (Nat.not_lt_zero _)
  rcases heldAlike_or_lost h with halike | ⟨hborrowed, hlost⟩
  · exact ⟨hkey', halike.nullable_eq.trans hbyte.2⟩
  · have hlt := amount_key_lt_of_lost h hborrowed hlost
    rw [hbyte.1, hnone] at hlt
    exact absurd hlt (Nat.not_lt_zero _)

end Layers

theorem key_arrayShape (element : TypeRef) (length : List Token) (written : Ty) :
    (arrayShape element length).key written =
      "[" ++ element.key ++ "; " ++ displayTokens length ++ "]" := rfl

theorem amount_key_arrayShape (element : TypeRef) (length : List Token) (written : Ty) :
    amount isOpening ((arrayShape element length).key written) =
      1 + amount isOpening element.key + Token.total isOpening length := by
  have hopen : amount isOpening "[" = 1 := rfl
  have hmark : amount isOpening "; " = 0 := rfl
  have hclose : amount isOpening "]" = 0 := rfl
  rw [key_arrayShape, amount_append, amount_append, amount_append, amount_append, hopen, hmark,
    hclose, amount_displayTokens]
  rfl

/-- The names of arrays tell the keys of the elements and the lengths, where nothing but parentheses
was added. -/
theorem key_arrayShape_eq_iff {element element' : TypeRef} {length length' : List Token}
    (hkey : Grows (amount isOpening) element.key element'.key)
    (hlength : Token.Wrapped length length') (written written' : Ty) :
    (arrayShape element length).key written = (arrayShape element' length').key written' ↔
      element.key = element'.key ∧ length = length' := by
  constructor
  · intro heq
    rcases hkey.both hlength.grows with hboth | hlt
    · exact hboth
    · have hamount := congrArg (amount isOpening) heq
      rw [amount_key_arrayShape, amount_key_arrayShape] at hamount
      omega
  · rintro ⟨hkeys, rfl⟩
    rw [key_arrayShape, key_arrayShape, hkeys]

theorem key_sliceShape_of_isByte {element : TypeRef} (hbyte : element.IsByte) (written : Ty) :
    (sliceShape element true).key written = "Vec<u8>" := by
  have hdisplay : element.displayKey = "u8" := by
    rw [TypeRef.displayKey_eq, hbyte.2, if_neg Bool.false_ne_true, hbyte.1]
  rw [sliceShape_of_isByte hbyte, Shape.key, displayKeys, displayKeys, hdisplay]
  rfl

/-- A slice is a run of elements with the parentheses and without, or it is one of bytes without. -/
theorem slice_cases {element element' : Ty} (h : element.Wrapped element')
    (hkey : Grows (amount isOpening) (TypeRef.ofTy element).key (TypeRef.ofTy element').key)
    (borrowed : Bool) :
    (sliceShape (TypeRef.ofTy element) borrowed = .variadic ∧
        sliceShape (TypeRef.ofTy element') borrowed = .variadic) ∨
      (borrowed = true ∧ (TypeRef.ofTy element).IsByte) := by
  by_cases hbyte : borrowed = true ∧ (TypeRef.ofTy element).IsByte
  · exact .inr hbyte
  · have hother : borrowed = true → ¬ (TypeRef.ofTy element).IsByte :=
      fun hborrowed h => hbyte ⟨hborrowed, h⟩
    have hother' : borrowed = true → ¬ (TypeRef.ofTy element').IsByte :=
      fun hborrowed hbyte' => hother hborrowed (isByte_of_wrapped h hkey hbyte')
    exact .inl ⟨sliceShape_of_not_isByte hother, sliceShape_of_not_isByte hother'⟩

theorem grows_displayKeys {types types' : List Ty}
    (h : List.Forall₂ (fun u u' => Grows (amount isOpening) (TypeRef.ofTy u).displayKey
      (TypeRef.ofTy u').displayKey) types types') :
    Grows (fun keys => (keys.map (amount isOpening)).sum) (displayKeys (types.map TypeRef.ofTy))
      (displayKeys (types'.map TypeRef.ofTy)) := by
  rw [displayKeys_eq_map, displayKeys_eq_map, List.map_map, List.map_map]
  apply Grows.list
  rw [List.forall₂_map_left_iff, List.forall₂_map_right_iff]
  exact h

/-- The keys of the parts of a resolved type say how its key grows. -/
theorem Source.Ty.HeldAlike.Layer.grows_key {t t' : Ty} (hlayer : HeldAlike.Layer t t')
    (hparts : ∀ u, u.extent < t.extent → ∀ u', u.Wrapped u' →
      Grows (amount isOpening) (TypeRef.ofTy u).key (TypeRef.ofTy u').key) :
    Grows (amount isOpening) (TypeRef.ofTy t).key (TypeRef.ofTy t').key := by
  rw [key_ofTy, key_ofTy]
  cases hlayer with
  | text _ _ _ hshape hshape' =>
    rw [hshape, hshape']
    exact .inl rfl
  | @path name types types' hpath _ _ inside hshape hshape' =>
    have hargs : List.Forall₂ (fun u u' => Grows (amount isOpening) (TypeRef.ofTy u).displayKey
        (TypeRef.ofTy u').displayKey) types types' := by
      have hmem := (List.forall₂_and_left types types').2 ⟨fun u hu => hu, inside⟩
      refine hmem.imp fun u u' ⟨hu, hwrapped⟩ => ?_
      exact grows_displayKey hwrapped (hparts u (extent_lt_of_path hpath hu) u' hwrapped)
    rw [hshape, hshape']
    exact grows_key_named (grows_displayKeys hargs) t t'
  | @slice element element' hslice _ inside hshape hshape' =>
    have helement := hparts element (extent_lt_of_slice hslice) element' inside
    rw [hshape, hshape']
    rcases slice_cases inside helement t.isReference with ⟨hruns, hruns'⟩ | ⟨hborrowed, hbyte⟩
    · rw [hruns, hruns']
      exact .inl rfl
    · rw [hborrowed, key_sliceShape_of_isByte hbyte]
      -- Parentheses may hide that the elements are bytes, and the key is written out then.
      by_cases hbyte' : (TypeRef.ofTy element').IsByte
      · rw [key_sliceShape_of_isByte hbyte']
        exact .inl rfl
      · have hmore : amount isOpening "Vec<u8>" < amount isOpening "[..]" := by decide
        rw [sliceShape_of_not_isByte fun _ => hbyte']
        exact .inr hmore
  | @array element element' length length' harray _ inside lengths hshape hshape' =>
    have helement := hparts element (extent_lt_of_array harray) element' inside
    rw [hshape, hshape']
    -- An array grows with its elements or with its length.
    rcases helement.both lengths.grows with ⟨hkey, rfl⟩ | hlt
    · rw [key_arrayShape, key_arrayShape, hkey]
      exact .inl rfl
    · refine .inr ?_
      rw [amount_key_arrayShape, amount_key_arrayShape]
      omega

/-- The key of a type with more parentheses is as it was, or has more opening brackets. By recursion
on what is written of the type, as arguments and elements are not always its direct parts. -/
theorem Source.Ty.Wrapped.grows_key {t t' : Ty} (h : t.Wrapped t') :
    Grows (amount isOpening) (TypeRef.ofTy t).key (TypeRef.ofTy t').key := by
  rcases heldAlike_or_lost h with halike | ⟨hborrowed, hlost⟩
  · cases hknown : (TypeRef.ofTy t).isUnresolved with
    | true =>
      have hknown' : (TypeRef.ofTy t').isUnresolved = true := halike.isUnresolved_eq ▸ hknown
      -- Both are shown with all that is written.
      apply h.grows.map fun t => (TypeRef.ofTy t).key
      intro hlt
      rw [amount_key_of_unresolved _ hknown, amount_key_of_unresolved _ hknown']
      exact hlt
    | false => exact (halike.layer hknown).grows_key fun u _ u' hwrapped => hwrapped.grows_key
  · exact .inr (amount_key_lt_of_lost h hborrowed hlost)
termination_by t.extent

end TypedPreferences
