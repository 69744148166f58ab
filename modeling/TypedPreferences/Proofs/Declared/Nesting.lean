import TypedPreferences.Proofs.Declared.Frames
import TypedPreferences.Proofs.Source.Parsed

/-! An `Option` inside another type. The key of the type tells that it is there, unless it is the
element of an array: the name of an array is made of the key of its element, which leaves an `Option`
off. -/

namespace TypedPreferences

open Source Text Source.Ty

/-- Whether frames show a type as they show an `Option` of it: the innermost is an array, and each of
the others shows what stands in it by its key. -/
def Frame.hides : List Frame → Ty → Bool
  | [], _ => false
  | [f], t => f.isElement && t.isShown
  | f :: g :: rest, t => !f.isSelf && !(f.isOption && g.isOption) && hides (g :: rest) t

/-! Keys of types that are written alike, but for a part in a frame. -/

section Keys

variable {a b o t : Ty}

/-- Types that are shown as they are written have different keys where one is written with more. -/
theorem key_ne_of_total_lt (ha : (TypeRef.ofTy a).isUnresolved = true)
    (hb : (TypeRef.ofTy b).isUnresolved = true)
    (h : b.total (fun _ => true) < a.total (fun _ => true)) :
    (TypeRef.ofTy a).key ≠ (TypeRef.ofTy b).key := by
  intro heq
  have hamount := congrArg (amount fun _ => true) heq
  rw [amount_key_of_unresolved _ ha, amount_key_of_unresolved _ hb] at hamount
  omega

theorem isUnresolved_of_nested (h : a.bare.optional? = some b) (h' : b.bare.optional? = some t) :
    (TypeRef.ofTy a).isUnresolved = true := by
  rw [TypeRef.isUnresolved_iff, shape_of_optional h, h']
  rfl

theorem Frame.isShown_around {f : Frame} (hoption : f.isOption = false) (t : Ty) :
    (f.around t).isShown = !f.isSelf := by
  rw [isShown, isReference_around, isUnresolved_around f t hoption]
  rfl

theorem Frame.not_isOption_of_isSelf {f : Frame} (hself : f.isSelf = true) : f.isOption = false := by
  cases f with
  | element length => rfl
  | argument q name turbofish before after trailing =>
    rw [beq_iff_eq.1 hself, isOption]
    rfl

theorem Frame.shows_eq_iff (f : Frame) {s s' : TypeRef} (h : s.nullable = s'.nullable) :
    f.shows s = f.shows s' ↔ s.key = s'.key := by
  cases f with
  | element length => exact Iff.rfl
  | argument _ _ _ _ _ _ =>
    rw [shows, shows, TypeRef.displayKey_eq, TypeRef.displayKey_eq, h]
    cases s'.nullable with
    | false => exact Iff.rfl
    | true => exact (String.append_left_inj _).trans (String.append_right_inj _)

theorem Frame.key_around_iff {f : Frame} (hself : f.isSelf = false) (hoption : f.isOption = false)
    (a b : Ty) : (TypeRef.ofTy (f.around a)).key = (TypeRef.ofTy (f.around b)).key ↔
      f.shows (TypeRef.ofTy a) = f.shows (TypeRef.ofTy b) := by
  obtain ⟨before, after, htext⟩ := key_around_named hself hoption
  rw [(htext a).2, (htext b).2, String.append_left_inj, String.append_right_inj]

/-- An `Option` of a type in a frame of another name shows the key of the type. -/
theorem Frame.key_option_around_iff {f g : Frame} (hoption : f.isOption = true)
    (hnested : g.isOption = false) (h : b.total (fun _ => true) < a.total (fun _ => true)) :
    (TypeRef.ofTy (f.around (g.around a))).key = (TypeRef.ofTy (f.around (g.around b))).key ↔
      (TypeRef.ofTy (g.around a)).key = (TypeRef.ofTy (g.around b)).key := by
  have hheld := optional?_of_isOption hoption
  have hnone := optional?_of_not_isOption hnested
  have hshown : ∀ t, (g.around t).isShown = !g.isSelf := isShown_around hnested
  cases hself : g.isSelf with
  | false =>
    rw [hself] at hshown
    rw [key_of_shown (hheld _) (hnone a) (hshown a), key_of_shown (hheld _) (hnone b) (hshown b)]
  | true =>
    -- Neither the type nor the Option of it is resolved, so that both are shown as they are written.
    rw [hself] at hshown
    have hunresolved : ∀ t, (TypeRef.ofTy (g.around t)).isUnresolved = true := fun t =>
      (isUnresolved_around g t hnested).trans hself
    have hunresolved' : ∀ t, (TypeRef.ofTy (f.around (g.around t))).isUnresolved = true := fun t =>
      isUnresolved_of_not_shown (hheld _) (hnone t) (hshown t)
    have hne := key_ne_of_total_lt (hunresolved a) (hunresolved b) (total_fill_lt h [g])
    have hne' := key_ne_of_total_lt (hunresolved' a) (hunresolved' b) (total_fill_lt h [f, g])
    exact iff_of_false hne' hne

/-- What a frame around another one shows. -/
theorem Frame.key_around_around_iff (f g : Frame)
    (h : b.total (fun _ => true) < a.total (fun _ => true)) :
    (TypeRef.ofTy (f.around (g.around a))).key = (TypeRef.ofTy (f.around (g.around b))).key ↔
      (!f.isSelf && !(f.isOption && g.isOption)) = true ∧
        (TypeRef.ofTy (g.around a)).key = (TypeRef.ofTy (g.around b)).key := by
  -- An unresolved type is keyed by its spelling, and the two spellings differ in length.
  have hunequal : (∀ t, (TypeRef.ofTy (f.around (g.around t))).isUnresolved = true) →
      (TypeRef.ofTy (f.around (g.around a))).key ≠ (TypeRef.ofTy (f.around (g.around b))).key :=
    fun hunresolved => key_ne_of_total_lt (hunresolved a) (hunresolved b) (total_fill_lt h [f, g])
  cases hself : f.isSelf with
  | true =>
    have hne := hunequal fun t =>
      (isUnresolved_around f _ (not_isOption_of_isSelf hself)).trans hself
    simp [hne]
  | false =>
    cases hoption : f.isOption with
    | false =>
      have hnullable := (nullable_around g a).trans (nullable_around g b).symm
      rw [key_around_iff hself hoption, shows_eq_iff f hnullable]
      simp
    | true =>
      cases hnested : g.isOption with
      | true =>
        have hne := hunequal fun t =>
          isUnresolved_of_nested (optional?_of_isOption hoption _) (optional?_of_isOption hnested t)
        simp [hne]
      | false =>
        rw [key_option_around_iff hoption hnested h]
        simp

/-- Where nullability is part of what is shown, an `Option` of a type is not shown as the type. -/
theorem displayKey_ne (h : o.bare.optional? = some t) (hnone : t.bare.optional? = none) :
    (TypeRef.ofTy o).displayKey ≠ (TypeRef.ofTy t).displayKey := by
  intro heq
  cases hshown : t.isShown with
  | true =>
    have hamount := congrArg (amount fun _ => true) heq
    have howned := Bool.not_eq_eq_eq_not.1 (Bool.and_eq_true_iff.1 hshown).1
    have hmarks : amount (fun _ => true) "Option<" + amount (fun _ => true) ">" = 8 := rfl
    rw [TypeRef.amount_displayKey, TypeRef.amount_displayKey, nullable_of_optional h, if_pos rfl,
      nullable_of_owned howned hnone, key_of_shown h hnone hshown, hmarks] at hamount
    simp at hamount
  | false =>
    obtain ⟨p, -, hlt⟩ := exists_amount_lt h hnone hshown
    rw [heq] at hlt
    exact Nat.lt_irrefl _ hlt

theorem key_eq_iff_isShown (h : o.bare.optional? = some t) (hnone : t.bare.optional? = none) :
    (TypeRef.ofTy o).key = (TypeRef.ofTy t).key ↔ t.isShown = true := by
  refine ⟨fun heq => ?_, key_of_shown h hnone⟩
  by_contra hshown
  obtain ⟨p, hlt, -⟩ := exists_amount_lt h hnone (Bool.eq_false_iff.2 hshown)
  rw [heq] at hlt
  exact Nat.lt_irrefl _ hlt

/-! An `Option` that holds an `Option`: it is shown as it is written, and begins with a word that is
not the name of the type in it. -/

theorem isName_of_path {t : Ty} (ht : t.Proper) {name : String} {types : List Ty}
    (h : t.path? = some (name, types)) : IsName name := by
  cases t with
  | plain q name =>
    cases h
    exact ht.2
  | applied q name turbofish args trailing =>
    cases h
    exact ht.2.1
  | _ => cases h

theorem letters_of_name {name : String} (h : IsName name) :
    letters name.toList = name.toList := by
  obtain ⟨c, rest, htext, hc, hrest⟩ := h.exists_cons
  rw [letters, List.filter_eq_self, htext]
  have hblank : ' ' ∈ '\\' :: Bracketing.specials := by decide
  intro d hd
  rw [decide_eq_true_eq]
  rintro rfl
  rcases List.mem_cons.1 hd with rfl | hd
  · exact hc hblank
  · rcases hrest _ hd with hhash | hspecial
    · cases hhash
    · exact hspecial hblank

/-- The key of a path that is resolved begins with its name. -/
theorem key_of_path {t : Ty} {name : String} {types : List Ty} (h : t.path? = some (name, types))
    (hne : (view t).shape false ≠ .unresolved) (written : Ty) :
    (((view t).shape false).key written).toList =
      name.toList ++ argsText (displayKeys (types.map TypeRef.ofTy)) := by
  rw [shape_of_path h] at hne ⊢
  unfold pathShape at hne ⊢
  by_cases hself : (name == "Self") = true
  · rw [if_pos hself] at hne
    exact absurd rfl hne
  · rw [if_neg hself, Bool.false_and, if_neg (by decide), Shape.key_named]

/-- The key of an owned type is in brackets, or begins with the name of its path. -/
theorem key_cases (written : Ty) : ∀ t : Ty, (view t.bare).shape false ≠ .unresolved →
    (∃ rest, (((view t.bare).shape false).key written).toList = '[' :: rest) ∨
      ∃ name types, t.bare.path? = some (name, types) ∧
        (((view t.bare).shape false).key written).toList =
          name.toList ++ argsText (displayKeys (types.map TypeRef.ofTy))
  | .paren inner, hne => key_cases written inner hne
  | .plain _ _, hne => .inr ⟨_, _, rfl, key_of_path rfl hne written⟩
  | .applied _ _ _ _ _, hne => .inr ⟨_, _, rfl, key_of_path rfl hne written⟩
  | .slice _, _ => .inl ⟨_, Shape.key_variadic written⟩
  | .array element length, _ => by
    refine .inl ⟨(TypeRef.ofTy element).key.toList ++ ("; " ++ displayTokens length ++ "]").toList, ?_⟩
    change ("[" ++ (TypeRef.ofTy element).key ++ "; " ++ displayTokens length ++ "]").toList = _
    simp
  | .projection _ _, hne => absurd rfl hne
  | .reference _ _, hne => absurd rfl hne
  | .other _, hne => absurd rfl hne

theorem spelling_of_no_colon {q : Qualifier} (h : Token.total (· == ':') q.spelling = 0) :
    q.spelling = [] := by
  obtain ⟨leading, steps⟩ := q
  have hcolons : Token.total (· == ':') Token.colons = 2 := rfl
  rw [Qualifier.spelling, Token.total_append] at h
  cases steps with
  | cons s rest =>
    rw [List.flatMap_cons, Token.total_append, Token.total_append _ (.ident s.name :: s.args),
      hcolons] at h
    omega
  | nil =>
    cases leading with
    | true =>
      rw [if_pos rfl, hcolons] at h
      omega
    | false => rfl

/-- Without a colon, an `Option` is spelled with its name first. -/
theorem Frame.letters_around {f : Frame} (hoption : f.isOption = true)
    (hcolon : f.own (· == ':') = 0) (t : Ty) :
    ∃ rest, letters (Token.spellAll (f.around t).tokens).toList = "Option".toList ++ '<' :: rest := by
  cases f with
  | element length => cases hoption
  | argument q name turbofish before after trailing =>
    have hcolons : Token.total (· == ':') Token.colons = 2 := rfl
    obtain ⟨hname, -⟩ := Bool.and_eq_true_iff.1 (Bool.and_eq_true_iff.1 hoption).1
    rw [own] at hcolon
    have hqualifier : q.spelling = [] := spelling_of_no_colon (by omega)
    have hturbofish : turbofish = false := by
      cases turbofish with
      | false => rfl
      | true =>
        rw [if_pos rfl, hcolons] at hcolon
        omega
    rw [around, Ty.tokens, hqualifier, hturbofish, beq_iff_eq.1 hname, Token.angled]
    simp only [List.nil_append, List.cons_append, List.append_assoc, if_neg Bool.false_ne_true]
    rw [letters_spellAll_cons, letters_spellAll_cons]
    exact ⟨_, rfl⟩

theorem key_ne_of_held {f : Frame} (hoption : f.isOption = true) (ht : t.Proper)
    (hplain : ¬ t.IsOption) (ho : o.bare.optional? = some t) :
    (TypeRef.ofTy (f.around o)).key ≠ (TypeRef.ofTy (f.around t)).key := by
  have hnone := optional?_of_not_isOption hplain
  have hheld := Frame.optional?_of_isOption hoption
  have hunresolved := isUnresolved_of_nested (hheld o) ho
  cases hshown : t.isShown with
  | false =>
    have hmore := total_lt_of_optional ho
    exact key_ne_of_total_lt hunresolved (isUnresolved_of_not_shown (hheld t) hnone hshown)
      (Frame.total_fill_lt hmore [f])
  | true =>
    rw [key_of_shown (hheld t) hnone hshown]
    intro heq
    obtain ⟨hshape, hne⟩ := shape_of_shown hshown hnone
    have hcolon : f.own (· == ':') = 0 := by
      have hknown : (TypeRef.ofTy t).isUnresolved = false :=
        Bool.not_eq_eq_eq_not.1 (Bool.and_eq_true_iff.1 hshown).2
      -- The key of `t` has the colons of `t` at most, and the option is spelled with all of them.
      have hless := total_of_optional (· == ':') ho
      have hbound : f.own (· == ':') + o.total (· == ':') ≤ t.total (· == ':') :=
        calc f.own (· == ':') + o.total (· == ':')
          _ = (f.around o).total (· == ':') := (Frame.total_around _ f o).symm
          _ = amount (· == ':') (TypeRef.ofTy (f.around o)).key :=
            (amount_key_of_unresolved _ hunresolved).symm
          _ = amount (· == ':') (TypeRef.ofTy t).key := by rw [heq]
          _ ≤ t.total (· == ':') := (within_view outsideKeys_colon t).key_le hknown
      omega
    obtain ⟨more, hmore⟩ := Frame.letters_around hoption hcolon o
    have htext : letters (TypeRef.ofTy (f.around o)).key.toList =
        letters (TypeRef.ofTy t).key.toList := by rw [heq]
    rw [TypeRef.key_of_unresolved hunresolved, written_ofTy, letters_displayTokens, hmore, key_ofTy,
      hshape] at htext
    -- Up to its first mark, the one text is `Option`, and the other is a bracket or another name.
    rcases key_cases t t hne with ⟨rest, hbracket⟩ | ⟨name, types, hpath, hkey⟩
    · rw [hbracket] at htext
      cases htext
    · have hname := isName_of_path ht.bare hpath
      rw [hkey, letters_append, letters_of_name hname] at htext
      have hargs : ∀ c ∈ (letters (argsText (displayKeys (types.map TypeRef.ofTy)))).head?,
          c ∈ ['<', ',', '>', '['] := by
        cases displayKeys (types.map TypeRef.ofTy) with
        | nil => nofun
        | cons key rest =>
          rintro c ⟨⟩
          decide
      have hopen : ∀ c ∈ ('<' :: more).head?, c ∈ ['<', ',', '>', '['] := by
        rintro c ⟨⟩
        decide
      obtain ⟨rfl, -⟩ := eq_of_word_append (by decide) (isWord_of_name hname) hopen hargs htext
      exact hplain ⟨types, hpath⟩

/-- What a frame around an `Option` shows. -/
theorem key_around_option_iff (f : Frame) (ht : t.Proper) (hplain : ¬ t.IsOption)
    (ho : o.bare.optional? = some t) :
    (TypeRef.ofTy (f.around o)).key = (TypeRef.ofTy (f.around t)).key ↔
      (f.isElement && t.isShown) = true := by
  have hnone := optional?_of_not_isOption hplain
  -- Frames differ in what they resolve: nothing, an `Option`, or a name with its arguments.
  cases hself : f.isSelf with
  | true =>
    have hmore := total_lt_of_optional ho
    have hunresolved := fun t =>
      (Frame.isUnresolved_around f t (Frame.not_isOption_of_isSelf hself)).trans hself
    have hne := key_ne_of_total_lt (hunresolved o) (hunresolved t) (Frame.total_fill_lt hmore [f])
    cases f with
    | element length => cases hself
    | argument _ _ _ _ _ _ => simp [hne, Frame.isElement]
  | false =>
    cases hoption : f.isOption with
    | true =>
      have hne := key_ne_of_held hoption ht hplain ho
      cases f with
      | element length => cases hoption
      | argument _ _ _ _ _ _ => simp [hne, Frame.isElement]
    | false =>
      rw [Frame.key_around_iff hself hoption]
      cases f with
      | element length => exact key_eq_iff_isShown ho hnone
      | argument _ _ _ _ _ _ =>
        have hne := displayKey_ne ho hnone
        simp [hne, Frame.isElement, Frame.shows]

/-- The keys of an `Option` and of what it holds are the same in some frames exactly when the frames
hide the `Option`. -/
theorem key_fill_eq_iff (ht : t.Proper) (hplain : ¬ t.IsOption) (ho : o.bare.optional? = some t)
    (f : Frame) (rest : List Frame) :
    (TypeRef.ofTy (Frame.fill (f :: rest) o)).key = (TypeRef.ofTy (Frame.fill (f :: rest) t)).key ↔
      Frame.hides (f :: rest) t = true := by
  induction rest generalizing f with
  | nil => exact key_around_option_iff f ht hplain ho
  | cons g rest ih =>
    have hmore := total_lt_of_optional ho
    have hshows := Frame.key_around_around_iff f g (Frame.total_fill_lt hmore rest)
    rw [Frame.hides, Bool.and_eq_true_iff]
    exact hshows.trans (and_congr_right fun _ => ih g)

end Keys

/-! Types that are the same have the same key, where all parts of one of them are resolved. -/

mutual

theorem TypeRef.same_refl : ∀ t : TypeRef, t.same t = true
  | .mk _ _ shape nullable _ =>
    Bool.and_eq_true_iff.2 ⟨Shape.same_refl shape, beq_self_eq_true nullable⟩

theorem Shape.same_refl : ∀ shape : Shape, shape.same shape = true
  | .named name args => Bool.and_eq_true_iff.2 ⟨beq_self_eq_true name, sameAll_refl args⟩
  | .variadic => rfl
  | .unresolved => rfl

theorem sameAll_refl : ∀ ts : List TypeRef, sameAll ts ts = true
  | [] => rfl
  | t :: rest => Bool.and_eq_true_iff.2 ⟨TypeRef.same_refl t, sameAll_refl rest⟩

end

mutual

theorem TypeRef.resolved_of_same : ∀ t t' : TypeRef, t.same t' = true → t.resolved = t'.resolved
  | .mk _ _ shape _ _, .mk _ _ shape' _ _, h =>
    Shape.resolved_of_same shape shape' (Bool.and_eq_true_iff.1 h).1

theorem Shape.resolved_of_same : ∀ shape shape' : Shape, shape.same shape' = true →
    shape.resolved = shape'.resolved
  | .named _ args, .named _ args', h =>
    allResolved_of_same args args' (Bool.and_eq_true_iff.1 h).2
  | .variadic, .variadic, _ => rfl
  | .unresolved, .unresolved, _ => rfl

theorem allResolved_of_same : ∀ ts ts' : List TypeRef, sameAll ts ts' = true →
    allResolved ts = allResolved ts'
  | [], [], _ => rfl
  | t :: rest, t' :: rest', h => by
    obtain ⟨ht, hrest⟩ := Bool.and_eq_true_iff.1 h
    rw [allResolved, allResolved, TypeRef.resolved_of_same t t' ht,
      allResolved_of_same rest rest' hrest]

end

theorem TypeRef.same_eq (s t : TypeRef) :
    s.same t = (s.shape.same t.shape && s.nullable == t.nullable) := by
  obtain ⟨_, _, _, _, _⟩ := s
  obtain ⟨_, _, _, _, _⟩ := t
  rfl

theorem TypeRef.resolved_eq (t : TypeRef) : t.resolved = t.shape.resolved := by
  obtain ⟨_, _, _, _, _⟩ := t
  rfl

theorem key_eq_of_same_shape {s t : TypeRef} (h : s.shape.same t.shape = true)
    (hresolved : s.resolved = true ∨ t.resolved = true) : s.key = t.key := by
  have hboth : s.resolved = t.resolved := by
    rw [TypeRef.resolved_eq, TypeRef.resolved_eq, Shape.resolved_of_same _ _ h]
  have hs : s.resolved = true := hresolved.elim id hboth.trans
  have ht : t.resolved = true := hboth.symm.trans hs
  rw [← outline_eq_key hs, ← outline_eq_key ht]
  exact Shape.outline_of_same _ _ h

theorem sameAll_append {s t : TypeRef} (h : s.same t = true) (before after : List TypeRef) :
    sameAll (before ++ s :: after) (before ++ t :: after) = true := by
  induction before with
  | nil => exact Bool.and_eq_true_iff.2 ⟨h, sameAll_refl after⟩
  | cons u rest ih => exact Bool.and_eq_true_iff.2 ⟨TypeRef.same_refl u, ih⟩

/-- Arrays of types that have the same key are the same. -/
theorem same_arrayShape {s t : TypeRef} (h : s.key = t.key) (length : List Token) :
    (arrayShape s length).same (arrayShape t length) = true := by
  rw [arrayShape, arrayShape, h]
  exact Shape.same_refl _

section Hidden

variable {o t : Ty}

/-- A frame whose parts are the same and have the same key. -/
theorem Frame.same_around {f : Frame} {a b : Ty} (hself : f.isSelf = false)
    (hoption : f.isOption = false) (hkey : (TypeRef.ofTy a).key = (TypeRef.ofTy b).key)
    (hsame : f.isElement = true ∨ (TypeRef.ofTy a).same (TypeRef.ofTy b) = true) :
    (TypeRef.ofTy (f.around a)).shape.same (TypeRef.ofTy (f.around b)).shape = true := by
  cases f with
  | element length =>
    rw [shape_around_element, shape_around_element]
    exact same_arrayShape hkey length
  | argument q name turbofish before after trailing =>
    rw [shape_around_argument hself hoption, shape_around_argument hself hoption, List.map_append,
      List.map_append, List.map_cons, List.map_cons]
    have hargs := sameAll_append (hsame.resolve_left nofun) ((typesAmong before).map TypeRef.ofTy)
      ((typesAmong after).map TypeRef.ofTy)
    exact Bool.and_eq_true_iff.2 ⟨beq_self_eq_true name, hargs⟩

theorem Frame.shape_around_isOption {f g : Frame} (hoption : f.isOption = true)
    (hinner : g.isOption = false) (a : Ty) :
    (TypeRef.ofTy (f.around (g.around a))).shape = (TypeRef.ofTy (g.around a)).shape := by
  have hnone := optional?_of_not_isOption hinner a
  rw [shape_of_optional (optional?_of_isOption hoption _), hnone,
    shape_of_owned (isReference_around g a) hnone]
  rfl

/-- Types are the same where frames hide what distinguishes them. -/
theorem same_of_hides (ht : t.Proper) (hplain : ¬ t.IsOption) (ho : o.bare.optional? = some t)
    (f : Frame) (rest : List Frame) (h : Frame.hides (f :: rest) t = true) :
    (TypeRef.ofTy (Frame.fill (f :: rest) o)).same (TypeRef.ofTy (Frame.fill (f :: rest) t)) =
      true := by
  have hnullable : ∀ (f : Frame) (a b : Ty),
      ((TypeRef.ofTy (f.around a)).nullable == (TypeRef.ofTy (f.around b)).nullable) = true := by
    intro f a b
    rw [f.nullable_around, f.nullable_around]
    exact beq_self_eq_true _
  -- By induction on the frames, from the outermost one: each has to hide what is around it.
  induction rest generalizing f with
  | nil =>
    obtain ⟨helement, hshown⟩ := Bool.and_eq_true_iff.1 h
    have hkey := key_of_shown ho (optional?_of_not_isOption hplain) hshown
    rw [TypeRef.same_eq]
    refine Bool.and_eq_true_iff.2 ⟨?_, hnullable f o t⟩
    cases f with
    | element length => exact @Frame.same_around (.element length) o t rfl rfl hkey (.inl rfl)
    | argument _ _ _ _ _ _ => cases helement
  | cons g rest ih =>
    have hkey := (key_fill_eq_iff ht hplain ho g rest).2
    rw [Frame.hides, Bool.and_eq_true_iff, Bool.and_eq_true_iff] at h
    obtain ⟨⟨hself, hoptions⟩, hinner⟩ := h
    have hsame := ih g hinner
    rw [TypeRef.same_eq]
    refine Bool.and_eq_true_iff.2 ⟨?_, hnullable f _ _⟩
    cases hoption : f.isOption with
    | false =>
      exact Frame.same_around (Bool.not_eq_eq_eq_not.1 hself) hoption (hkey hinner) (.inr hsame)
    | true =>
      rw [hoption, Bool.true_and] at hoptions
      -- An option is told by its inside, which is no option again.
      have hnested : g.isOption = false := Bool.not_eq_eq_eq_not.1 hoptions
      rw [TypeRef.same_eq] at hsame
      change (TypeRef.ofTy (f.around (g.around _))).shape.same
        (TypeRef.ofTy (f.around (g.around _))).shape = true
      rw [Frame.shape_around_isOption hoption hnested, Frame.shape_around_isOption hoption hnested]
      exact (Bool.and_eq_true_iff.1 hsame).1

/-- A type and an `Option` of it have different keys in all frames that do not hide the `Option`,
and only there. Where all parts are resolved, the types in the frames are different too, and a
converter for one of them is not used for the other. -/
theorem nested_option_iff_hides (ht : t.Proper) (hplain : ¬ t.IsOption)
    (ho : o.bare.optional? = some t) (f : Frame) (rest : List Frame) :
    let a := TypeRef.ofTy (Frame.fill (f :: rest) o)
    let b := TypeRef.ofTy (Frame.fill (f :: rest) t)
    (a.key = b.key ↔ Frame.hides (f :: rest) t = true) ∧
      (Frame.hides (f :: rest) t = true → a.same b = true) ∧
      (a.resolved = true ∨ b.resolved = true →
        (a.same b = true → Frame.hides (f :: rest) t = true) ∧
        ∀ registry : Registry, registry.flowsInto a b = true ∨ registry.flowsInto b a = true →
          Frame.hides (f :: rest) t = true) := by
  intro a b
  have hkeys : a.key = b.key ↔ Frame.hides (f :: rest) t = true :=
    key_fill_eq_iff ht hplain ho f rest
  refine ⟨hkeys, same_of_hides ht hplain ho f rest, fun hresolved => ⟨fun hsame => ?_, ?_⟩⟩
  · rw [TypeRef.same_eq] at hsame
    exact hkeys.1 (key_eq_of_same_shape (Bool.and_eq_true_iff.1 hsame).1 hresolved)
  · have hbase : ∀ {s t : TypeRef} {registry : Registry}, registry.flowsInto s t = true →
        s.shape.same t.shape = true := fun h =>
      (Bool.and_eq_true_iff.1 (Bool.and_eq_true_iff.1 h).1).1
    rintro registry (hflows | hflows)
    · exact hkeys.1 (key_eq_of_same_shape (hbase hflows) hresolved)
    · exact hkeys.1 (key_eq_of_same_shape (hbase hflows) hresolved.symm).symm

/-- A map to arrays of lists of optional numbers is no map to arrays of lists of numbers. -/
theorem nested_option_iff_hides_lists : ∃ t : Ty, typeOf? "i32" = some t ∧
    let o := Ty.applied {} "Option" false [.type t] false
    let f := Frame.argument {} "HashMap" false [.type (.plain {} "String")] [] false
    let rest := [Frame.element [.literal "2"], Frame.argument {} "Vec" false [] [] false]
    t.Proper ∧ ¬ t.IsOption ∧ o.bare.optional? = some t ∧
      (TypeRef.ofTy (Frame.fill (f :: rest) t)).resolved = true ∧
      (TypeRef.ofTy (Frame.fill (f :: rest) o)).key ≠
        (TypeRef.ofTy (Frame.fill (f :: rest) t)).key ∧
      (TypeRef.ofTy (Frame.fill (f :: rest) o)).same (TypeRef.ofTy (Frame.fill (f :: rest) t)) =
        false := by
  let f := Frame.argument {} "HashMap" false [.type (.plain {} "String")] [] false
  let rest := [Frame.element [.literal "2"], Frame.argument {} "Vec" false [] [] false]
  -- Reading the type is evaluated; the rest follows from what is shown of it.
  have hread : (typeOf? "i32").map (fun t => (t.bare.path?.map (·.1),
      (TypeRef.ofTy (Frame.fill (f :: rest) t)).resolved)) = some (some "i32", true) := by
    decide +kernel
  obtain ⟨t, ht, hfacts⟩ := Option.map_eq_some_iff.1 hread
  obtain ⟨hpath, hresolved⟩ := Prod.mk.inj hfacts
  have hplain : ¬ t.IsOption := by
    rintro ⟨types, hoption⟩
    have hname : "Option" = "i32" := by
      rw [hoption] at hpath
      exact Option.some.inj hpath
    exact absurd hname (by decide)
  have hproper := proper_of_typeOf? ht
  let o := Ty.applied {} "Option" false [.type t] false
  obtain ⟨hkey, -, hparts⟩ := nested_option_iff_hides (o := o) hproper hplain rfl f rest
  obtain ⟨hsame, -⟩ := hparts (.inr hresolved)
  have hshown : ¬ Frame.hides (f :: rest) t = true := by
    simp [rest, Frame.hides, Frame.isElement]
  exact ⟨t, ht, hproper, hplain, rfl, hresolved, mt hkey.1 hshown,
    Bool.eq_false_iff.2 (mt hsame hshown)⟩

end Hidden

/-- An array of optional numbers has the key of an array of numbers, and is the same type. -/
theorem not_key_ne_of_nested :
    (∃ a b : Ty, typeOf? "[Option<i32>; 4]" = some a ∧ typeOf? "[i32; 4]" = some b ∧
      (TypeRef.ofTy a).key = (TypeRef.ofTy b).key ∧
      (TypeRef.ofTy a).same (TypeRef.ofTy b) = true) ∧
    ¬ ∀ (t o : Ty) (f : Frame) (rest : List Frame), ¬ t.IsOption → o.bare.optional? = some t →
      (TypeRef.ofTy (Frame.fill (f :: rest) o)).key ≠ (TypeRef.ofTy (Frame.fill (f :: rest) t)).key := by
  constructor
  · have hread : (typeOf? "[Option<i32>; 4]").bind (fun a => (typeOf? "[i32; 4]").map fun b =>
        (decide ((TypeRef.ofTy a).key = (TypeRef.ofTy b).key),
          (TypeRef.ofTy a).same (TypeRef.ofTy b))) = some (true, true) := by
      decide +kernel
    obtain ⟨a, ha, hread⟩ := Option.bind_eq_some_iff.1 hread
    obtain ⟨b, hb, hfacts⟩ := Option.map_eq_some_iff.1 hread
    obtain ⟨hkeys, hsame⟩ := Prod.mk.inj hfacts
    exact ⟨a, b, ha, hb, of_decide_eq_true hkeys, hsame⟩
  · intro hclaim
    have hplain : ¬ (Ty.plain {} "i32").IsOption := not_isOption_plain (by decide)
    let o := Ty.applied {} "Option" false [.type (.plain {} "i32")] false
    exact hclaim (.plain {} "i32") o (.element [.literal "4"]) [] hplain rfl (by decide +kernel)

end TypedPreferences
