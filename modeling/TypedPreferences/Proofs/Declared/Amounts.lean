import TypedPreferences.Proofs.Declared.Storable
import TypedPreferences.Proofs.Source.Amounts

/-! A key that does not show its type as written has no more ampersands, colons and opening brackets
than the type: its own characters are others, and all else in it stands in the type. -/

namespace TypedPreferences

open Source Text Bracketing

/-- The characters that keys have of their own. An opening square bracket is none of them: a slice or
an array is written with it too. -/
def keyCharacters : List Char :=
  "Option String Vec<>..], ;".toList

/-- A kind of characters that keys only have from the types that they are keys of. -/
def OutsideKeys (p : Char → Bool) : Prop :=
  ∀ c ∈ keyCharacters, p c = false

theorem outsideKeys_ampersand : OutsideKeys (· == '&') :=
  forall_of_all (by decide)

theorem outsideKeys_colon : OutsideKeys (· == ':') :=
  forall_of_all (by decide)

theorem TypeRef.isUnresolved_iff (t : TypeRef) : t.isUnresolved = true ↔ t.shape = .unresolved := by
  obtain ⟨written, inner, shape, nullable, byRef⟩ := t
  constructor
  · intro h
    cases shape with
    | unresolved => rfl
    | _ => cases h
  · rintro rfl
    rfl

theorem TypeRef.key_of_unresolved {t : TypeRef} (h : t.isUnresolved = true) :
    t.key = displayTokens t.written.tokens := by
  obtain ⟨written, inner, shape, nullable, byRef⟩ := t
  cases shape with
  | unresolved => rfl
  | _ => cases h

theorem written_ofTy (t : Ty) : (TypeRef.ofTy t).written = t := by
  rw [TypeRef.ofTy, View.toRef]
  dsimp only
  split <;> rfl

/-- A type that is not resolved is shown with all that it is written with. -/
theorem amount_key_of_unresolved (p : Char → Bool) {t : Ty}
    (h : (TypeRef.ofTy t).isUnresolved = true) :
    amount p (TypeRef.ofTy t).key = t.total p := by
  rw [TypeRef.key_of_unresolved h, amount_displayTokens, written_ofTy]
  rfl

theorem TypeRef.displayKey_eq (t : TypeRef) :
    t.displayKey = if t.nullable then "Option<" ++ t.key ++ ">" else t.key := by
  obtain ⟨_, _, _, _, _⟩ := t
  rw [displayKey]
  rfl

theorem TypeRef.amount_displayKey (p : Char → Bool) (t : TypeRef) :
    amount p t.displayKey =
      (if t.nullable then amount p "Option<" + amount p ">" else 0) + amount p t.key := by
  rw [displayKey_eq]
  cases t.nullable with
  | true =>
    change amount p ("Option<" ++ t.key ++ ">") = amount p "Option<" + amount p ">" + _
    rw [amount_append, amount_append]
    omega
  | false => exact (Nat.zero_add _).symm

section OutsideKeys

variable {p : Char → Bool}

theorem OutsideKeys.amount_own (hp : OutsideKeys p) {text : String}
    (h : ∀ c ∈ text.toList, c ∈ keyCharacters) : amount p text = 0 :=
  amount_eq_zero fun c hc => hp c (h c hc)

theorem OutsideKeys.amount_displayKey (hp : OutsideKeys p) (t : TypeRef) :
    amount p t.displayKey = amount p t.key := by
  have hopen : amount p "Option<" = 0 := hp.amount_own (forall_of_all (by decide))
  have hclose : amount p ">" = 0 := hp.amount_own (forall_of_all (by decide))
  rw [TypeRef.amount_displayKey, hopen, hclose]
  split <;> omega

theorem displayKeys_eq_map : ∀ ts : List TypeRef, displayKeys ts = ts.map TypeRef.displayKey
  | [] => rfl
  | t :: rest => congrArg (t.displayKey :: ·) (displayKeys_eq_map rest)

theorem OutsideKeys.amount_named (hp : OutsideKeys p) (written : Ty) (name : String)
    (args : List TypeRef) : amount p ((Shape.named name args).key written) =
      amount p name + (args.map fun t => amount p t.displayKey).sum := by
  have hopen : amount p "<" = 0 := hp.amount_own (forall_of_all (by decide))
  have hclose : amount p ">" = 0 := hp.amount_own (forall_of_all (by decide))
  have hcomma : amount p ", " = 0 := hp.amount_own (forall_of_all (by decide))
  rw [Shape.key]
  cases args with
  | nil => rfl
  | cons t rest =>
    rw [List.isEmpty_cons, if_neg (by decide), amount_append, amount_append, amount_append, hopen,
      hclose, amount_intercalate p hcomma, displayKeys_eq_map, List.map_map]
    rfl

/-- A view whose resolved shapes are shown with at most a given number of characters of a kind. -/
inductive View.Within (p : Char → Bool) (n : Nat) : View → Prop where
  | mk {core : Ty} {shape : Bool → Shape} {payload referent : Option View}
    (hshape : ∀ byRef written, (shape byRef) ≠ .unresolved →
      amount p ((shape byRef).key written) ≤ n)
    (hpayload : ∀ inner, payload = some inner → inner.Within p n)
    (hreferent : ∀ inner, referent = some inner → inner.Within p n) :
    View.Within p n (.mk core shape payload referent)

/-- A view that holds nothing. -/
theorem View.Within.of_shape {n : Nat} {core : Ty} {shape : Bool → Shape}
    (h : ∀ byRef written, (shape byRef) ≠ .unresolved →
      amount p ((shape byRef).key written) ≤ n) :
    View.Within p n (.mk core shape none none) :=
  .mk h (fun _ h => by cases h) (fun _ h => by cases h)

/-- A reference, which is not resolved itself. -/
theorem View.Within.of_referent {n : Nat} {core : Ty} {v : View} (h : v.Within p n) :
    View.Within p n (.mk core (fun _ => .unresolved) none (some v)) :=
  .mk (fun _ _ hne => absurd rfl hne) (fun _ h => by cases h)
    (fun _ heq => Option.some.inj heq ▸ h)

theorem View.Within.mono {n m : Nat} (hnm : n ≤ m) {v : View} (h : v.Within p n) :
    v.Within p m := by
  induction h with
  | mk hshape _ _ ihpayload ihreferent =>
    exact .mk (fun byRef written hne => (hshape byRef written hne).trans hnm) ihpayload ihreferent

theorem View.Within.parenthesised {n : Nat} {v : View} (h : v.Within p n) :
    v.parenthesised.Within p n := by
  cases h with
  | mk hshape hpayload _ => exact .mk hshape hpayload (fun _ h => by cases h)

theorem View.Within.target {n : Nat} {v : View} (h : v.Within p n) :
    (v.referent.getD v).Within p n := by
  refine View.target_of h fun inner hsome => ?_
  obtain ⟨-, -, hinner⟩ := h
  exact hinner _ hsome

theorem View.Within.shape_le {n : Nat} {v : View} (h : v.Within p n) {byRef : Bool}
    (hne : v.shape byRef ≠ .unresolved) (written : Ty) :
    amount p ((v.shape byRef).key written) ≤ n := by
  obtain ⟨hshape, -, -⟩ := h
  exact hshape byRef written hne

theorem View.Within.key_le {n : Nat} {v : View} (h : v.Within p n) {written : Ty}
    (hknown : (v.toRef written).isUnresolved = false) : amount p (v.toRef written).key ≤ n := by
  have htarget := h.target
  unfold View.toRef at hknown ⊢
  dsimp only at hknown ⊢
  generalize v.referent.getD v = target at htarget hknown ⊢
  -- A type with a resolved shape is resolved.
  have hshown : ∀ {shape : Shape} {inner : Ty} {nullable byRef : Bool},
      (TypeRef.mk written inner shape nullable byRef).isUnresolved = false →
      shape ≠ .unresolved := by
    intro shape inner nullable byRef hfalse hshape
    rw [(TypeRef.isUnresolved_iff (.mk written inner shape nullable byRef)).2 hshape] at hfalse
    cases hfalse
  cases hpayload : target.payload with
  | none =>
    rw [hpayload] at hknown
    exact htarget.shape_le (hshown hknown) written
  | some inner =>
    rw [hpayload] at hknown
    obtain ⟨-, hinner, -⟩ := htarget
    cases hdeeper : inner.payload with
    | some deeper =>
      dsimp only at hknown
      rw [hdeeper] at hknown
      cases hknown
    | none =>
      dsimp only at hknown ⊢
      rw [hdeeper] at hknown ⊢
      exact (hinner _ hpayload).shape_le (hshown hknown) written

theorem View.Within.displayKey_le (hp : OutsideKeys p) {t : Ty} (h : (view t).Within p (t.total p)) :
    amount p (TypeRef.ofTy t).displayKey ≤ t.total p := by
  rw [hp.amount_displayKey]
  cases hknown : (TypeRef.ofTy t).isUnresolved with
  | true => exact (amount_key_of_unresolved p hknown).le
  | false => exact h.key_le hknown

theorem amount_pathShape_le (hp : OutsideKeys p) {name : String} {args : List TypeRef} {byRef : Bool}
    (hne : pathShape name args byRef ≠ .unresolved) (written : Ty) :
    amount p ((pathShape name args byRef).key written) ≤
      amount p name + (args.map fun t => amount p t.displayKey).sum := by
  rcases pathShape_cases name args byRef with hshape | hshape | hshape
  · exact absurd hshape hne
  · have hstring : amount p "String" = 0 := hp.amount_own (forall_of_all (by decide))
    rw [hshape, hp.amount_named, hstring]
    exact Nat.zero_le _
  · rw [hshape, hp.amount_named]

theorem amount_sliceShape_le (hp : OutsideKeys p) (element : TypeRef) (byRef : Bool) (written : Ty) :
    amount p ((sliceShape element byRef).key written) ≤
      amount p "[" + amount p element.displayKey := by
  unfold sliceShape
  split
  · have hvec : amount p "Vec" = 0 := hp.amount_own (forall_of_all (by decide))
    rw [hp.amount_named, hvec, List.map_singleton, List.sum_singleton, Nat.zero_add]
    exact Nat.le_add_left _ _
  · have hdots : amount p "..]" = 0 := hp.amount_own (forall_of_all (by decide))
    change amount p ("[" ++ "..]") ≤ _
    rw [amount_append, hdots, Nat.add_zero]
    exact Nat.le_add_right _ _

theorem amount_arrayShape_le (hp : OutsideKeys p) (element : TypeRef) (length : List Token)
    (written : Ty) : amount p ((arrayShape element length).key written) ≤
      amount p "[" + amount p element.displayKey + Token.total p length := by
  have hmark : amount p "; " = 0 := hp.amount_own (forall_of_all (by decide))
  have hclose : amount p "]" = 0 := hp.amount_own (forall_of_all (by decide))
  rw [arrayShape, hp.amount_named, amount_append, amount_append, amount_append, amount_append,
    hmark, hclose, amount_displayTokens, hp.amount_displayKey, Token.total]
  simp

theorem Arg.total_le_totals (p : Char → Bool) {t : Ty} : ∀ {args : List Arg},
    t ∈ Ty.typesAmong args → t.total p ≤ Arg.totals p args
  | .type ty :: rest, h => by
    have htotals : Arg.totals p (.type ty :: rest) = ty.total p + Arg.totals p rest := rfl
    rcases List.mem_cons.1 h with rfl | h
    · omega
    · have hrest := Arg.total_le_totals p h
      omega
  | .lifetime _ :: rest, h => Nat.le_add_left_of_le (@Arg.total_le_totals p t rest h)
  | .other _ :: rest, h => Nat.le_add_left_of_le (@Arg.total_le_totals p t rest h)

mutual

/-- The key of a type that is resolved has at most the ampersands, colons and opening brackets of the
type. -/
theorem within_view (hp : OutsideKeys p) : ∀ t : Ty, (view t).Within p (t.total p)
  -- By recursion on the type: a key is made of keys of parts and of marks the type has itself.
  | .plain q name => by
    refine .of_shape fun byRef written hne => (amount_pathShape_le hp hne written).trans ?_
    rw [Ty.total, Ty.tokens, Token.total_append, Token.total_cons, Token.spell]
    simp only [List.map_nil, List.sum_nil]
    omega
  | .applied q name turbofish args trailing => by
    obtain ⟨hviews, hsum⟩ := within_argViews hp args
    have htotal := Ty.total_applied p q name turbofish args trailing
    refine .mk (fun byRef written hne => (amount_pathShape_le hp hne written).trans ?_) ?_
      (fun _ h => by cases h)
    · rw [List.map_map]
      change _ + ((argViews args).map fun part => amount p (part.2.toRef part.1).displayKey).sum ≤ _
      omega
    · intro inner hinner
      split at hinner
      · -- Only an `Option` of one argument has a view inside, that of the argument.
        obtain ⟨part, hpart, rfl⟩ := Option.map_eq_some_iff.1 hinner
        have hmem : part ∈ argViews args := by
          rw [single?_eq_some.1 hpart]
          exact List.mem_singleton_self part
        exact (hviews part hmem).mono (by omega)
      · cases hinner
  | .projection _ _ => .of_shape fun _ _ hne => absurd rfl hne
  | .reference modifiers referent => by
    have htotal := Ty.total_reference p modifiers referent
    exact .of_referent ((within_view hp referent).mono (by omega))
  | .slice element => by
    refine .of_shape fun byRef written _ => ?_
    have helement := (within_view hp element).displayKey_le hp
    have htotal := Ty.total_slice p element
    refine (amount_sliceShape_le hp _ byRef written).trans ?_
    change _ + amount p (TypeRef.ofTy element).displayKey ≤ _
    omega
  | .array element length => by
    refine .of_shape fun _ written _ => ?_
    have helement := (within_view hp element).displayKey_le hp
    have htotal := Ty.total_array p element length
    refine (amount_arrayShape_le hp _ length written).trans ?_
    change _ + amount p (TypeRef.ofTy element).displayKey + _ ≤ _
    omega
  | .paren inner => by
    have htotal := Ty.total_paren p inner
    exact ((within_view hp inner).mono (by omega)).parenthesised
  | .other _ => .of_shape fun _ _ hne => absurd rfl hne

theorem within_argViews (hp : OutsideKeys p) : ∀ args : List Arg,
    (∀ part ∈ argViews args, part.2.Within p (Arg.totals p args)) ∧
    ((argViews args).map fun part => amount p (part.2.toRef part.1).displayKey).sum ≤
      Arg.totals p args
  | [] => ⟨fun _ h => absurd h List.not_mem_nil, Nat.le_refl 0⟩
  | .type ty :: rest => by
    obtain ⟨hviews, hsum⟩ := within_argViews hp rest
    have hview := within_view hp ty
    have htotals : Arg.totals p (.type ty :: rest) = ty.total p + Arg.totals p rest := rfl
    rw [argViews, List.map_cons, List.sum_cons, htotals]
    refine ⟨List.forall_mem_cons.2 ⟨hview.mono (Nat.le_add_right _ _), fun part hpart => ?_⟩,
      Nat.add_le_add (hview.displayKey_le hp) hsum⟩
    exact (hviews part hpart).mono (Nat.le_add_left _ _)
  | .lifetime name :: rest => by
    obtain ⟨hviews, hsum⟩ := within_argViews hp rest
    have htotals : Arg.totals p (.lifetime name :: rest) =
        Token.total p (Token.lifetime name) + Arg.totals p rest := rfl
    rw [argViews, htotals]
    exact ⟨fun part hpart => (hviews part hpart).mono (Nat.le_add_left _ _),
      Nat.le_add_left_of_le hsum⟩
  | .other spelling :: rest => by
    obtain ⟨hviews, hsum⟩ := within_argViews hp rest
    have htotals : Arg.totals p (.other spelling :: rest) =
        Token.total p spelling + Arg.totals p rest := rfl
    rw [argViews, htotals]
    exact ⟨fun part hpart => (hviews part hpart).mono (Nat.le_add_left _ _),
      Nat.le_add_left_of_le hsum⟩

end

end OutsideKeys

end TypedPreferences
