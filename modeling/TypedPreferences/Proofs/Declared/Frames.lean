import TypedPreferences.Proofs.Declared.Amounts

/-! Types with frames around them: named types of which they are an argument, and arrays of which
they are the element. What is known of the identity of an `Option`, and of a type in a frame. -/

namespace TypedPreferences

open Source Text Source.Ty

/-- What stands around a part of a type: a named type of which it is an argument, or an array of
which it is the element. -/
inductive Frame where
  | argument (qualifier : Qualifier) (name : String) (turbofish : Bool) (before after : List Arg)
    (trailing : Bool)
  | element (length : List Token)

namespace Frame

def around : Frame → Ty → Ty
  | .argument q name turbofish before after trailing, t =>
    .applied q name turbofish (before ++ .type t :: after) trailing
  | .element length, t => .array t length

/-- A type with frames around it, the outermost first. -/
def fill (frames : List Frame) (t : Ty) : Ty :=
  frames.foldr around t

def isElement : Frame → Bool
  | .argument _ _ _ _ _ _ => false
  | .element _ => true

def isSelf : Frame → Bool
  | .argument _ name _ _ _ _ => name == "Self"
  | .element _ => false

/-- Whether it is an `Option` of what stands in it. -/
def isOption : Frame → Bool
  | .argument _ name _ before after _ =>
    name == "Option" && (typesAmong before).isEmpty && (typesAmong after).isEmpty
  | .element _ => false

/-- How a type is shown in the frame. -/
def shows : Frame → TypeRef → String
  | .argument _ _ _ _ _ _, t => t.displayKey
  | .element _, t => t.key

/-- How often characters of a kind stand in the spelling of the frame. -/
def own (p : Char → Bool) : Frame → Nat
  | .argument q name turbofish before after trailing =>
    Token.total p q.spelling + amount p name +
      Token.total p (if turbofish then Token.colons else []) +
      Token.total p (Arg.marks trailing (argTokens before ++ (false, []) :: argTokens after)) +
      Arg.totals p before + Arg.totals p after
  | .element length => amount p "[" + amount p ";" + Token.total p length + amount p "]"

end Frame

/-- A type that is shown by its own name, also where it stands in an `Option`. -/
def Source.Ty.isShown (t : Ty) : Bool :=
  !t.isReference && !(TypeRef.ofTy t).isUnresolved

/-- A path that ends in `Option`. -/
def Source.Ty.IsOption (t : Ty) : Prop :=
  ∃ types, t.bare.path? = some ("Option", types)

/-! What frames add to the spelling of a type. -/

theorem Frame.total_around (p : Char → Bool) (f : Frame) (t : Ty) :
    (f.around t).total p = f.own p + t.total p := by
  cases f with
  | argument q name turbofish before after trailing =>
    have htokens : argTokens (before ++ .type t :: after) =
        argTokens before ++ (false, t.tokens) :: argTokens after := argTokens_append before _
    have hmarks : Arg.marks trailing (argTokens (before ++ .type t :: after)) =
        Arg.marks trailing (argTokens before ++ (false, []) :: argTokens after) := by
      rw [htokens, Arg.marks, Arg.marks, List.map_append, List.map_append]
      rfl
    have htotals : Arg.totals p (before ++ .type t :: after) =
        Arg.totals p before + (t.total p + Arg.totals p after) := by
      rw [Arg.totals, htokens, List.map_append, List.sum_append, List.map_cons, List.sum_cons]
      rfl
    rw [around, Ty.total_applied, hmarks, htotals, own]
    omega
  | element length =>
    rw [around, Ty.total_array, own]
    omega

theorem Frame.total_fill_lt {p : Char → Bool} {s t : Ty} (h : t.total p < s.total p)
    (frames : List Frame) : (fill frames t).total p < (fill frames s).total p := by
  induction frames with
  | nil => exact h
  | cons f rest ih =>
    change (f.around (fill rest t)).total p < (f.around (fill rest s)).total p
    rw [total_around, total_around]
    exact Nat.add_lt_add_left ih _

theorem Source.Ty.total_bare_le (p : Char → Bool) : ∀ t : Ty, t.bare.total p ≤ t.total p
  | .paren inner => by
    have hinner := total_bare_le p inner
    have htotal := Ty.total_paren p inner
    change inner.bare.total p ≤ _
    omega
  | .plain _ _ => Nat.le_refl _
  | .applied _ _ _ _ _ => Nat.le_refl _
  | .projection _ _ => Nat.le_refl _
  | .reference _ _ => Nat.le_refl _
  | .slice _ => Nat.le_refl _
  | .array _ _ => Nat.le_refl _
  | .other _ => Nat.le_refl _

theorem Source.Ty.path?_of_optional {o t : Ty} (h : o.optional? = some t) :
    o.path? = some ("Option", [t]) := by
  obtain ⟨⟨name, types⟩, hpath, hsingle⟩ := Option.bind_eq_some_iff.1 h
  obtain ⟨rfl, hsingle⟩ := Option.ite_none_right_eq_some.1 hsingle
  rw [hpath, single?_eq_some.1 hsingle]

/-- An `Option` is spelled with all that it holds, and its name. -/
theorem Source.Ty.total_of_optional (p : Char → Bool) {o t : Ty} (h : o.bare.optional? = some t) :
    t.total p + amount p "Option" ≤ o.total p := by
  refine Nat.le_trans ?_ (total_bare_le p o)
  have hpath := path?_of_optional h
  cases hbare : o.bare with
  | applied q name turbofish args trailing =>
    rw [hbare] at hpath
    obtain ⟨hname, htypes⟩ := Prod.mk.inj (Option.some.inj hpath)
    have hmem : t ∈ typesAmong args := by
      rw [htypes]
      exact List.mem_singleton_self t
    have hle := Arg.total_le_totals p hmem
    rw [Ty.total_applied, hname]
    omega
  | plain q name =>
    rw [hbare] at hpath
    cases hpath
  | _ =>
    rw [hbare] at hpath
    cases hpath

theorem Source.Ty.total_lt_of_optional {o t : Ty} (h : o.bare.optional? = some t) :
    t.total (fun _ => true) < o.total (fun _ => true) := by
  have hletters : amount (fun _ => true) "Option" = 6 := rfl
  have hle := total_of_optional (fun _ => true) h
  omega

/-! The identity of an `Option`. -/

theorem Shape.named_ne_unresolved {name : String} {args : List TypeRef} :
    Shape.named name args ≠ .unresolved := by
  intro h
  cases h

theorem Shape.key_eq {shape : Shape} (h : shape ≠ .unresolved) (written written' : Ty) :
    shape.key written = shape.key written' := by
  cases shape with
  | unresolved => exact absurd rfl h
  | _ => rfl

section Optional

variable {o t : Ty}

theorem Source.Ty.isReference_of_optional (h : o.bare.optional? = some t) :
    o.isReference = false := by
  cases o with
  | reference _ _ => cases h
  | _ => rfl

theorem nullable_of_optional (h : o.bare.optional? = some t) :
    (TypeRef.ofTy o).nullable = true := by
  rw [nullable_ofTy, unreferenced_of_owned (isReference_of_optional h), h]
  rfl

theorem shape_of_optional (h : o.bare.optional? = some t) : (TypeRef.ofTy o).shape =
    if t.bare.optional?.isSome then .unresolved else (view t.bare).shape false := by
  have howned := isReference_of_optional h
  have hbase : o.base = t.bare := by
    rw [base, unreferenced_of_owned howned, h]
  rw [shape_ofTy, hbase, howned]

/-- An owned type that is no `Option` has the shape that an `Option` of it has. -/
theorem shape_of_owned (howned : t.isReference = false) (hnone : t.bare.optional? = none) :
    (TypeRef.ofTy t).shape = (view t.bare).shape false := by
  have hbase : t.base = t.bare := by
    rw [base, unreferenced_of_owned howned, hnone]
  rw [shape_ofTy, hbase, hnone, howned]
  rfl

theorem nullable_of_owned (howned : t.isReference = false) (hnone : t.bare.optional? = none) :
    (TypeRef.ofTy t).nullable = false := by
  rw [nullable_ofTy, unreferenced_of_owned howned, hnone]
  rfl

theorem Source.Ty.optional?_of_not_isOption (h : ¬ t.IsOption) : t.bare.optional? = none := by
  cases hoption : t.bare.optional? with
  | none => rfl
  | some inner => exact absurd ⟨_, path?_of_optional hoption⟩ h

theorem Source.Ty.not_isOption_plain {q : Qualifier} {name : String} (h : name ≠ "Option") :
    ¬ (Ty.plain q name).IsOption := by
  rintro ⟨types, hpath⟩
  exact h (Prod.mk.inj (Option.some.inj hpath)).1

theorem shape_of_shown (h : t.isShown = true) (hnone : t.bare.optional? = none) :
    (TypeRef.ofTy t).shape = (view t.bare).shape false ∧ (view t.bare).shape false ≠ .unresolved := by
  obtain ⟨howned, hknown⟩ := Bool.and_eq_true_iff.1 h
  have hshape := shape_of_owned (Bool.not_eq_eq_eq_not.1 howned) hnone
  refine ⟨hshape, fun hunresolved => ?_⟩
  rw [(TypeRef.isUnresolved_iff _).2 (hshape.trans hunresolved)] at hknown
  cases hknown

theorem shape_of_not_shown (h : t.isShown = false) (hnone : t.bare.optional? = none) :
    (view t.bare).shape false = .unresolved := by
  cases hreference : t.isReference with
  | true =>
    cases t with
    | reference _ _ => rfl
    | _ => cases hreference
  | false =>
    rw [isShown, hreference] at h
    have hunresolved : (TypeRef.ofTy t).isUnresolved = true := by simpa using h
    rw [← shape_of_owned hreference hnone]
    exact (TypeRef.isUnresolved_iff _).1 hunresolved

/-- An `Option` of a type that is shown by its own name has its key. -/
theorem key_of_shown (h : o.bare.optional? = some t) (hnone : t.bare.optional? = none)
    (hshown : t.isShown = true) : (TypeRef.ofTy o).key = (TypeRef.ofTy t).key := by
  obtain ⟨hshape, hne⟩ := shape_of_shown hshown hnone
  rw [key_ofTy, key_ofTy, shape_of_optional h, hnone, hshape]
  exact Shape.key_eq hne o t

theorem isUnresolved_of_not_shown (h : o.bare.optional? = some t) (hnone : t.bare.optional? = none)
    (hshown : t.isShown = false) : (TypeRef.ofTy o).isUnresolved = true := by
  rw [TypeRef.isUnresolved_iff, shape_of_optional h, hnone, shape_of_not_shown hshown hnone]
  rfl

/-- A type that is not shown by its own name has a key unlike that of an `Option` of it: it is shown
with fewer characters, or with fewer ampersands if its reference is dropped from its key. -/
theorem exists_amount_lt (h : o.bare.optional? = some t) (hnone : t.bare.optional? = none)
    (hshown : t.isShown = false) :
    ∃ p, amount p (TypeRef.ofTy t).key < amount p (TypeRef.ofTy o).key ∧
      amount p (TypeRef.ofTy t).displayKey < amount p (TypeRef.ofTy o).displayKey := by
  have hkey := fun p => amount_key_of_unresolved p (isUnresolved_of_not_shown h hnone hshown)
  cases hunresolved : (TypeRef.ofTy t).isUnresolved with
  | true =>
    refine ⟨fun _ => true, ?_⟩
    have hmore := total_lt_of_optional h
    have hkey' := amount_key_of_unresolved (fun _ => true) hunresolved
    rw [TypeRef.amount_displayKey, TypeRef.amount_displayKey, nullable_of_optional h, if_pos rfl,
      hkey, hkey']
    refine ⟨by omega, ?_⟩
    split <;> omega
  | false =>
    refine ⟨(· == '&'), ?_⟩
    rw [outsideKeys_ampersand.amount_displayKey, outsideKeys_ampersand.amount_displayKey, hkey,
      and_self]
    cases t with
    | reference modifiers referent =>
      have hwithin : (view (.reference modifiers referent)).Within (· == '&')
          (referent.total (· == '&')) := .of_referent (within_view outsideKeys_ampersand referent)
      have hmark : amount (· == '&') "&" = 1 := rfl
      have htotal := Ty.total_reference (· == '&') modifiers referent
      have hmore := total_of_optional (· == '&') h
      -- The key has the ampersands of the referent at most, and the type has one more.
      calc amount (· == '&') (TypeRef.ofTy (.reference modifiers referent)).key
        _ ≤ referent.total (· == '&') := hwithin.key_le hunresolved
        _ < (Ty.reference modifiers referent).total (· == '&') := by omega
        _ ≤ o.total (· == '&') := by omega
    | _ =>
      rw [isShown, hunresolved] at hshown
      cases hshown

end Optional

/-! The identity of a type with a frame around it. -/

namespace Frame

variable (f : Frame) (t : Ty)

theorem isReference_around : (f.around t).isReference = false := by
  cases f <;> rfl

theorem bare_around : (f.around t).bare = f.around t := by
  cases f <;> rfl

theorem typesAmong_append : ∀ args rest : List Arg,
    typesAmong (args ++ rest) = typesAmong args ++ typesAmong rest
  | [], _ => rfl
  | .type ty :: more, rest => congrArg (ty :: ·) (typesAmong_append more rest)
  | .lifetime _ :: more, rest => typesAmong_append more rest
  | .other _ :: more, rest => typesAmong_append more rest

theorem optional?_around :
    (f.around t).bare.optional? = if f.isOption = true then some t else none := by
  cases f with
  | element length => rfl
  | argument q name turbofish before after trailing =>
    have hpath : (Ty.applied q name turbofish (before ++ .type t :: after) trailing).path? =
        some (name, typesAmong before ++ t :: typesAmong after) :=
      congrArg (fun types => some (name, types)) (typesAmong_append before _)
    rw [bare_around, around, optional?_of_path hpath, isOption]
    by_cases hname : name = "Option"
    · rw [if_pos hname, beq_iff_eq.2 hname]
      cases typesAmong before with
      | nil => cases typesAmong after <;> rfl
      | cons u us => cases us <;> rfl
    · rw [if_neg hname, beq_false_of_ne hname]
      rfl

theorem optional?_of_isOption {f : Frame} (hoption : f.isOption = true) (t : Ty) :
    (f.around t).bare.optional? = some t := by
  rw [optional?_around, if_pos hoption]

theorem optional?_of_not_isOption {f : Frame} (hoption : f.isOption = false) (t : Ty) :
    (f.around t).bare.optional? = none := by
  rw [optional?_around, hoption]
  rfl

theorem nullable_around : (TypeRef.ofTy (f.around t)).nullable = f.isOption := by
  rw [nullable_ofTy, unreferenced_of_owned (isReference_around f t), optional?_around]
  cases f.isOption <;> rfl

theorem shape_around (hoption : f.isOption = false) :
    (TypeRef.ofTy (f.around t)).shape = (view (f.around t)).shape false := by
  have hnone := optional?_of_not_isOption hoption t
  rw [shape_of_owned (isReference_around f t) hnone, bare_around]

theorem exists_intercalate (separator : String) (texts rest : List String) :
    ∃ before after, ∀ text,
      separator.intercalate (texts ++ text :: rest) = before ++ text ++ after := by
  induction texts with
  | nil =>
    cases rest with
    | nil => exact ⟨"", "", fun text => by simp⟩
    | cons next more =>
      refine ⟨"", separator ++ separator.intercalate (next :: more), fun text => ?_⟩
      rw [List.nil_append, String.intercalate_cons_cons, String.empty_append, String.append_assoc]
  | cons first more ih =>
    obtain ⟨before, after, htext⟩ := ih
    refine ⟨first ++ separator ++ before, after, fun text => ?_⟩
    rw [List.cons_append, String.intercalate_cons_of_ne_nil (by simp), htext]
    simp only [String.append_assoc]

theorem shape_around_argument {q : Qualifier} {name : String} {turbofish trailing : Bool}
    {before after : List Arg}
    (hself : (argument q name turbofish before after trailing).isSelf = false)
    (hoption : (argument q name turbofish before after trailing).isOption = false) (t : Ty) :
    (TypeRef.ofTy ((argument q name turbofish before after trailing).around t)).shape =
      .named name ((typesAmong before ++ t :: typesAmong after).map TypeRef.ofTy) := by
  have hname : (name == "Self") = false := hself
  rw [shape_around _ t hoption, shape_of_path (t := around _ t) rfl, typesAmong_append, pathShape,
    hname]
  rfl

theorem shape_around_element (length : List Token) (t : Ty) :
    (TypeRef.ofTy ((element length).around t)).shape = arrayShape (TypeRef.ofTy t) length :=
  shape_around (element length) t rfl

/-- In a frame that is named, a type is resolved and shown at one place of the key. -/
theorem key_around_named {f : Frame} (hself : f.isSelf = false) (hoption : f.isOption = false) :
    ∃ before after, ∀ t, (TypeRef.ofTy (f.around t)).shape ≠ .unresolved ∧
      (TypeRef.ofTy (f.around t)).key = before ++ f.shows (TypeRef.ofTy t) ++ after := by
  cases f with
  | element length =>
    refine ⟨"[", "; " ++ displayTokens length ++ "]", fun t => ?_⟩
    rw [key_ofTy, shape_around_element]
    refine ⟨Shape.named_ne_unresolved, ?_⟩
    rw [arrayShape, Shape.key, List.isEmpty_nil, if_pos rfl, shows]
    simp only [String.append_assoc]
  | argument q name turbofish befores afters trailing =>
    obtain ⟨before, after, htext⟩ := exists_intercalate ", "
      (displayKeys ((typesAmong befores).map TypeRef.ofTy))
      (displayKeys ((typesAmong afters).map TypeRef.ofTy))
    refine ⟨name ++ "<" ++ before, after ++ ">", fun t => ?_⟩
    rw [key_ofTy, shape_around_argument hself hoption]
    refine ⟨Shape.named_ne_unresolved, ?_⟩
    have hargs : ((typesAmong befores ++ t :: typesAmong afters).map TypeRef.ofTy).isEmpty = false := by
      simp
    -- The arguments around the type have keys of their own, whatever it is.
    have hkeys : displayKeys ((typesAmong befores ++ t :: typesAmong afters).map TypeRef.ofTy) =
        displayKeys ((typesAmong befores).map TypeRef.ofTy) ++
          (TypeRef.ofTy t).displayKey :: displayKeys ((typesAmong afters).map TypeRef.ofTy) := by
      simp only [displayKeys_eq_map, List.map_append, List.map_cons]
    rw [Shape.key, hargs, if_neg (by decide), hkeys, htext, shows]
    simp only [String.append_assoc]

theorem isUnresolved_around (hoption : f.isOption = false) :
    (TypeRef.ofTy (f.around t)).isUnresolved = f.isSelf := by
  cases hself : f.isSelf with
  | false =>
    obtain ⟨_, _, hshown⟩ := key_around_named hself hoption
    rw [← Bool.not_eq_true, TypeRef.isUnresolved_iff]
    exact (hshown t).1
  | true =>
    rw [TypeRef.isUnresolved_iff, shape_around f t hoption]
    cases f with
    | element length => cases hself
    | argument q name turbofish before after trailing =>
      rw [shape_of_path (t := around _ t) rfl, pathShape]
      exact if_pos hself

end Frame

end TypedPreferences
