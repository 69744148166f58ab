import TypedPreferences.Declared.TypeRef
import TypedPreferences.Proofs.Text.Bracketing

/-! Keys of types. Where every type in it is resolved, a type has the key of exactly those types
whose shape it has: a key tells its parts. -/

namespace TypedPreferences

open Text Bracketing

/-! Types without a part that is not resolved. -/

mutual

def TypeRef.resolved : TypeRef → Bool
  | .mk _ _ shape _ _ => shape.resolved

def Shape.resolved : Shape → Bool
  | .named _ args => allResolved args
  | .variadic => true
  | .unresolved => false

def allResolved : List TypeRef → Bool
  | [] => true
  | t :: rest => t.resolved && allResolved rest

end

/-! Keys in which all parts that are not resolved are shown as one. -/

mutual

def TypeRef.outline : TypeRef → String
  | .mk _ _ shape nullable _ =>
    if nullable then "Option<" ++ shape.outline ++ ">" else shape.outline

def Shape.outline : Shape → String
  | .named name args =>
    if args.isEmpty then name else name ++ "<" ++ ", ".intercalate (outlines args) ++ ">"
  | .variadic => "[..]"
  | .unresolved => "<?>"

def outlines : List TypeRef → List String
  | [] => []
  | t :: rest => t.outline :: outlines rest

end

mutual

theorem TypeRef.outline_of_resolved : ∀ t : TypeRef, t.resolved = true → t.outline = t.displayKey
  | .mk written _ shape _ _, h => by
    rw [TypeRef.outline, TypeRef.displayKey, Shape.outline_of_resolved written shape h]

theorem Shape.outline_of_resolved (written : Source.Ty) : ∀ shape : Shape, shape.resolved = true →
    shape.outline = shape.key written
  | .named name args, h => by
    rw [Shape.outline, Shape.key, outlines_of_resolved args h]
  | .variadic, _ => rfl
  | .unresolved, h => nomatch h

theorem outlines_of_resolved : ∀ ts : List TypeRef, allResolved ts = true →
    outlines ts = displayKeys ts
  | [], _ => rfl
  | t :: rest, h => by
    obtain ⟨ht, hrest⟩ := Bool.and_eq_true_iff.1 h
    rw [outlines, displayKeys, TypeRef.outline_of_resolved t ht, outlines_of_resolved rest hrest]

end

mutual

theorem TypeRef.outline_of_same : ∀ t t' : TypeRef, t.same t' = true → t.outline = t'.outline
  | .mk _ _ shape _ _, .mk _ _ shape' _ _, hsame => by
    obtain ⟨hshape, hnullable⟩ := Bool.and_eq_true_iff.1 hsame
    rw [TypeRef.outline, TypeRef.outline, Shape.outline_of_same shape shape' hshape,
      beq_iff_eq.1 hnullable]

theorem Shape.outline_of_same : ∀ shape shape' : Shape, shape.same shape' = true →
    shape.outline = shape'.outline
  | .named name args, .named name' args', hsame => by
    obtain ⟨hname, hargs⟩ := Bool.and_eq_true_iff.1 hsame
    have hempty : args.isEmpty = args'.isEmpty := by
      cases args <;> cases args' <;> first | rfl | cases hargs
    rw [Shape.outline, Shape.outline, beq_iff_eq.1 hname, outlines_of_same args args' hargs, hempty]
  | .variadic, .variadic, _ => rfl
  | .unresolved, .unresolved, _ => rfl

theorem outlines_of_same : ∀ ts ts' : List TypeRef, sameAll ts ts' = true →
    outlines ts = outlines ts'
  | [], [], _ => rfl
  | t :: rest, t' :: rest', hsame => by
    obtain ⟨ht, hrest⟩ := Bool.and_eq_true_iff.1 hsame
    rw [outlines, outlines, TypeRef.outline_of_same t t' ht, outlines_of_same rest rest' hrest]

end

/-! Types whose outlines can be read back. -/

/-- A name that a mark of a key ends. -/
def IsWord (name : String) : Prop :=
  name.toList ≠ [] ∧ ∀ c ∈ name.toList, c ∉ ['<', ',', '>', '[']

instance : DecidablePred IsWord := fun name =>
  letI := List.decidableBAll (fun c => c ∉ ['<', ',', '>', '[']) name.toList
  inferInstanceAs (Decidable (_ ∧ _))

/-- The name of an array: an element and a length in brackets. -/
def IsArrayName (name : String) : Prop :=
  ∃ cs, name.toList = '[' :: cs ++ [']'] ∧ Closed cs ∧ ';' ∈ cs

mutual

/-- A type all of whose parts that are resolved are named as types are. An `Option` of one type is no
name: it makes a type nullable. -/
def TypeRef.Clear : TypeRef → Prop
  | .mk _ _ shape _ _ => shape.Clear

def Shape.Clear : Shape → Prop
  | .named name args =>
    (args = [] ∧ IsArrayName name) ∨
      (IsWord name ∧ (name = "Option" → args.length ≠ 1) ∧ AllClear args)
  | .variadic => True
  | .unresolved => True

def AllClear : List TypeRef → Prop
  | [] => True
  | t :: rest => t.Clear ∧ AllClear rest

end

/-- What may follow a key. -/
def Ends (rest : List Char) : Prop :=
  ∀ c ∈ rest.head?, c = ',' ∨ c = '>'

/-- The text of arguments after a name. -/
def argsText : List String → List Char
  | [] => []
  | key :: rest => '<' :: ((", ".intercalate (key :: rest)).toList ++ ['>'])

theorem intercalate_cons (key next : String) (rest : List String) :
    (", ".intercalate (key :: next :: rest)).toList =
      key.toList ++ ',' :: ' ' :: (", ".intercalate (next :: rest)).toList := by
  rw [String.intercalate_cons_cons]
  simp

theorem Shape.key_named (written : Source.Ty) (name : String) (args : List TypeRef) :
    ((Shape.named name args).key written).toList = name.toList ++ argsText (displayKeys args) := by
  rw [Shape.key]
  cases args with
  | nil => simp [displayKeys, argsText]
  | cons t rest => simp [displayKeys, argsText]

theorem Shape.outline_named (name : String) (args : List TypeRef) :
    (Shape.named name args).outline.toList = name.toList ++ argsText (outlines args) := by
  rw [Shape.outline]
  cases args with
  | nil => simp [outlines, argsText]
  | cons t rest => simp [outlines, argsText]

theorem Shape.key_variadic (written : Source.Ty) :
    (Shape.variadic.key written).toList = '[' :: ['.', '.'] ++ [']'] := by
  rw [Shape.key]
  rfl

/-- Two words are the same when the same marks end them. -/
theorem eq_of_word_append {name name' : String} {text text' : List Char} (h : IsWord name)
    (h' : IsWord name') (htext : ∀ c ∈ text.head?, c ∈ ['<', ',', '>', '['])
    (htext' : ∀ c ∈ text'.head?, c ∈ ['<', ',', '>', '['])
    (heq : name.toList ++ text = name'.toList ++ text') : name = name' ∧ text = text' := by
  rcases List.append_eq_append_iff.1 heq with ⟨more, hname, hmore⟩ | ⟨more, hname, hmore⟩
  · cases more with
    | nil => exact ⟨String.toList_inj.1 (by rw [hname, List.append_nil]), hmore⟩
    | cons c more =>
      have hc : c ∈ name'.toList := hname ▸ List.mem_append_right _ List.mem_cons_self
      exact absurd (htext c (by rw [hmore]; rfl)) (h'.2 c hc)
  · cases more with
    | nil => exact ⟨String.toList_inj.1 (by rw [hname, List.append_nil]), hmore.symm⟩
    | cons c more =>
      have hc : c ∈ name.toList := hname ▸ List.mem_append_right _ List.mem_cons_self
      exact absurd (htext' c (by rw [hmore]; rfl)) (h.2 c hc)

theorem displayKey_of_nullable (written inner : Source.Ty) (shape : Shape) (byRef : Bool) :
    (TypeRef.mk written inner shape true byRef).displayKey.toList =
      "Option".toList ++ '<' :: ((shape.key written).toList ++ ['>']) := by
  rw [TypeRef.displayKey]
  simp

theorem outline_of_nullable (written inner : Source.Ty) (shape : Shape) (byRef : Bool) :
    (TypeRef.mk written inner shape true byRef).outline.toList =
      "Option".toList ++ '<' :: (shape.outline.toList ++ ['>']) := by
  rw [TypeRef.outline]
  simp

theorem Shape.outline_variadic : Shape.variadic.outline.toList = '[' :: ['.', '.'] ++ [']'] := by
  rw [Shape.outline]
  rfl

theorem Shape.outline_unresolved : Shape.unresolved.outline.toList = ['<', '?', '>'] := by
  rw [Shape.outline]
  rfl

/-- A text in brackets is no word. -/
theorem not_bracket_of_word {name : String} (h : IsWord name) (text rest : List Char) {c : Char}
    (hc : c ∈ ['<', ',', '>', '[']) : name.toList ++ text ≠ c :: rest := by
  intro heq
  cases hname : name.toList with
  | nil => exact h.1 hname
  | cons d more =>
    rw [hname] at heq
    obtain ⟨rfl, -⟩ := List.cons.inj heq
    exact h.2 d (hname ▸ List.mem_cons_self) hc

theorem argsText_head (keys : List String) {rest : List Char} (h : Ends rest) :
    ∀ c ∈ (argsText keys ++ rest).head?, c ∈ ['<', ',', '>', '['] := by
  cases keys with
  | nil =>
    intro c hc
    rcases h c hc with rfl | rfl <;> decide
  | cons key more =>
    rintro c ⟨⟩
    decide

/-- An outline tells the shape, and where it ends. -/
def Shape.Reads (shape : Shape) : Prop :=
  ∀ (t : TypeRef) (rest rest' : List Char), t.Clear → Ends rest → Ends rest' →
    shape.outline.toList ++ rest = t.outline.toList ++ rest' →
    t.nullable = false ∧ shape.same t.shape = true ∧ rest = rest'

def TypeRef.Reads (t : TypeRef) : Prop :=
  ∀ (t' : TypeRef) (rest rest' : List Char), t'.Clear → Ends rest → Ends rest' →
    t.outline.toList ++ rest = t'.outline.toList ++ rest' → t.same t' = true ∧ rest = rest'

def AllRead (ts : List TypeRef) : Prop :=
  ∀ t ∈ ts, t.Reads

theorem ends_close (rest : List Char) : Ends ('>' :: rest) := by
  rintro c ⟨⟩
  exact .inr rfl

theorem ends_comma (rest : List Char) : Ends (',' :: rest) := by
  rintro c ⟨⟩
  exact .inl rfl

/-- The outlines of arguments tell the arguments. -/
theorem eq_of_outlines (ts us : List TypeRef) (hreads : AllRead ts) (hclear : AllClear us)
    (hts : ts ≠ []) (hus : us ≠ []) (rest rest' : List Char)
    (heq : (", ".intercalate (outlines ts)).toList ++ '>' :: rest =
      (", ".intercalate (outlines us)).toList ++ '>' :: rest') :
    sameAll ts us = true ∧ rest = rest' := by
  -- By induction on the first list. Lists of different lengths differ where one has a comma and the
  -- other the closing mark.
  induction ts generalizing us with
  | nil => exact absurd rfl hts
  | cons t more ih =>
    cases us with
    | nil => exact absurd rfl hus
    | cons u others =>
      have ht : t.Reads := hreads t List.mem_cons_self
      cases more with
      | nil =>
        rw [outlines, outlines, String.intercalate_singleton] at heq
        cases others with
        | nil =>
          rw [outlines, outlines, String.intercalate_singleton] at heq
          obtain ⟨hsame, hrest⟩ := ht u _ _ hclear.1 (ends_close _) (ends_close _) heq
          exact ⟨Bool.and_eq_true_iff.2 ⟨hsame, rfl⟩, (List.cons.inj hrest).2⟩
        | cons u₂ others =>
          rw [outlines, outlines, intercalate_cons, List.append_assoc] at heq
          obtain ⟨-, hrest⟩ := ht u _ _ hclear.1 (ends_close _) (ends_comma _) heq
          cases (List.cons.inj hrest).1
      | cons t₂ more =>
        rw [outlines, outlines, intercalate_cons, List.append_assoc] at heq
        cases others with
        | nil =>
          rw [outlines, outlines, String.intercalate_singleton] at heq
          obtain ⟨-, hrest⟩ := ht u _ _ hclear.1 (ends_comma _) (ends_close _) heq
          cases (List.cons.inj hrest).1
        | cons u₂ others =>
          rw [outlines, outlines, intercalate_cons, List.append_assoc] at heq
          obtain ⟨hsame, hrest⟩ := ht u _ _ hclear.1 (ends_comma _) (ends_comma _) heq
          obtain ⟨hsames, hend⟩ := ih (u₂ :: others)
            (fun x hx => hreads x (List.mem_cons_of_mem _ hx)) hclear.2 (List.cons_ne_nil _ _)
            (List.cons_ne_nil _ _) (List.cons.inj (List.cons.inj hrest).2).2
          exact ⟨Bool.and_eq_true_iff.2 ⟨hsame, hsames⟩, hend⟩

theorem length_of_sameAll : ∀ ts us : List TypeRef, sameAll ts us = true → ts.length = us.length
  | [], [], _ => rfl
  | _ :: ts, _ :: us, h =>
    congrArg (· + 1) (length_of_sameAll ts us (Bool.and_eq_true_iff.1 h).2)

theorem eq_of_argsText {ts us : List TypeRef} (hreads : AllRead ts) (hclear : AllClear us)
    {rest rest' : List Char} (hends : Ends rest) (hends' : Ends rest')
    (heq : argsText (outlines ts) ++ rest = argsText (outlines us) ++ rest') :
    sameAll ts us = true ∧ rest = rest' := by
  -- Only a type with arguments goes on with an opening angle mark.
  have hopen : ∀ {rest text : List Char}, Ends rest → rest ≠ '<' :: text := by
    rintro rest text h rfl
    rcases h '<' rfl with h | h <;> cases h
  cases ts with
  | nil =>
    cases us with
    | nil => exact ⟨rfl, heq⟩
    | cons u us => exact absurd heq (hopen hends)
  | cons t ts =>
    cases us with
    | nil => exact absurd heq.symm (hopen hends')
    | cons u us =>
      rw [outlines, outlines, argsText, argsText, List.cons_append, List.cons_append,
        List.append_assoc, List.append_assoc] at heq
      exact eq_of_outlines (t :: ts) (u :: us) hreads hclear (List.cons_ne_nil _ _)
        (List.cons_ne_nil _ _) _ _ (List.cons.inj heq).2

/-- A type without its nullability. -/
def TypeRef.owned : TypeRef → TypeRef
  | .mk written inner shape _ byRef => .mk written inner shape false byRef

/-- An outline is something in brackets, a word with arguments, or the mark of what is not
resolved. -/
inductive TypeRef.Outlined : TypeRef → Prop where
  | brackets {t : TypeRef} (cs : List Char) (text : t.outline.toList = '[' :: cs ++ [']'])
    (closed : Closed cs) (owned : t.nullable = false)
    (shape : t.shape = .variadic ∧ ';' ∉ cs ∨
      ∃ name, t.shape = .named name [] ∧ name.toList = '[' :: cs ++ [']'] ∧ ';' ∈ cs) :
    Outlined t
  | word {t : TypeRef} (name : String) (args : List TypeRef)
    (text : t.outline.toList = name.toList ++ argsText (outlines args)) (word : IsWord name)
    (clear : AllClear args)
    (shape : t.nullable = false ∧ t.shape = .named name args ∧
        (name = "Option" → args.length ≠ 1) ∨
      t.nullable = true ∧ name = "Option" ∧ args = [t.owned]) : Outlined t
  | unknown {t : TypeRef} (text : t.outline.toList = ['<', '?', '>']) (owned : t.nullable = false)
    (shape : t.shape = .unresolved) : Outlined t

theorem TypeRef.outlined (t : TypeRef) (h : t.Clear) : t.Outlined := by
  obtain ⟨written, inner, shape, nullable, byRef⟩ := t
  cases nullable with
  | true =>
    refine .word "Option" [.mk written inner shape false byRef] ?_ (by decide) ⟨h, trivial⟩
      (.inr ⟨rfl, rfl, rfl⟩)
    rw [outline_of_nullable, outlines, outlines, argsText, String.intercalate_singleton]
    rfl
  | false =>
    cases shape with
    | unresolved => exact .unknown Shape.outline_unresolved rfl rfl
    | variadic =>
      have hdots : Closed ['.', '.'] := closed_of_plain (forall_of_all (by decide))
      exact .brackets ['.', '.'] Shape.outline_variadic hdots rfl (.inl ⟨rfl, by decide⟩)
    | named name args =>
      have htext : (TypeRef.mk written inner (.named name args) false byRef).outline.toList =
          name.toList ++ argsText (outlines args) := Shape.outline_named name args
      rcases h with ⟨rfl, cs, hname, hclosed, hmark⟩ | ⟨hword, hoption, hargs⟩
      · refine .brackets cs ?_ hclosed rfl (.inr ⟨name, rfl, hname, hmark⟩)
        rw [htext, outlines, argsText, List.append_nil, hname]
      · exact .word name args htext hword hargs (.inl ⟨rfl, rfl, hoption⟩)

/-- A type in brackets is told by what stands in them. -/
theorem Shape.reads_brackets {shape : Shape} (cs : List Char)
    (htext : shape.outline.toList = '[' :: cs ++ [']']) (hclosed : Closed cs)
    (hshape : shape = .variadic ∧ ';' ∉ cs ∨
      ∃ name, shape = .named name [] ∧ name.toList = '[' :: cs ++ [']'] ∧ ';' ∈ cs) :
    shape.Reads := by
  intro t rest rest' hclear _ _ heq
  rw [htext] at heq
  rcases t.outlined hclear with ⟨cs', htext', hclosed', howned, hshape'⟩ |
    ⟨name, args, htext', hword, -, -⟩ | ⟨htext', -, -⟩
  · rw [htext'] at heq
    simp only [List.cons_append, List.append_assoc] at heq
    obtain ⟨rfl, hrest⟩ := eq_of_append_bracket hclosed hclosed' (List.cons.inj heq).2
    refine ⟨howned, ?_, hrest⟩
    -- A semicolon tells an array of a known key from a slice.
    rcases hshape with ⟨rfl, hnone⟩ | ⟨name, rfl, hname, hmark⟩
    · rcases hshape' with ⟨hvariadic, -⟩ | ⟨name', -, -, hmark'⟩
      · rw [hvariadic]
        rfl
      · exact absurd hmark' hnone
    · rcases hshape' with ⟨-, hnone⟩ | ⟨name', hnamed, hname', -⟩
      · exact absurd hmark hnone
      · rw [hnamed, String.toList_inj.1 (hname.trans hname'.symm)]
        exact Bool.and_eq_true_iff.2 ⟨beq_self_eq_true _, rfl⟩
  · rw [htext'] at heq
    simp only [List.cons_append, List.append_assoc] at heq
    exact absurd heq.symm (not_bracket_of_word hword _ _ (by decide))
  · rw [htext'] at heq
    cases (List.cons.inj heq).1

/-- A word and its arguments are told by the word and by what the arguments tell. -/
theorem Shape.reads_word {name : String} {args : List TypeRef} (hword : IsWord name)
    (hoption : name = "Option" → args.length ≠ 1) (hargs : AllRead args) :
    (Shape.named name args).Reads := by
  intro t rest rest' hclear hends hends' heq
  rw [outline_named, List.append_assoc] at heq
  rcases t.outlined hclear with ⟨cs, htext, -, -, -⟩ |
    ⟨name', args', htext, hword', hargs', hshape⟩ | ⟨htext, -, -⟩
  · rw [htext] at heq
    exact absurd heq (not_bracket_of_word hword _ _ (by decide))
  · rw [htext, List.append_assoc] at heq
    obtain ⟨rfl, htail⟩ := eq_of_word_append hword hword' (argsText_head _ hends)
      (argsText_head _ hends') heq
    obtain ⟨hsame, hrest⟩ := eq_of_argsText hargs hargs' hends hends' htail
    rcases hshape with ⟨howned, hshape, -⟩ | ⟨-, rfl, rfl⟩
    · rw [hshape]
      exact ⟨howned, Bool.and_eq_true_iff.2 ⟨beq_self_eq_true _, hsame⟩, hrest⟩
    · exact absurd (length_of_sameAll _ _ hsame) (hoption rfl)
  · rw [htext] at heq
    exact absurd heq (not_bracket_of_word hword _ _ (by decide))

theorem Shape.reads_named {name : String} {args : List TypeRef}
    (hclear : (Shape.named name args).Clear) (hargs : AllRead args) :
    (Shape.named name args).Reads := by
  rcases hclear with ⟨rfl, cs, hname, hclosed, hmark⟩ | ⟨hword, hoption, -⟩
  · refine reads_brackets cs ?_ hclosed (.inr ⟨name, rfl, hname, hmark⟩)
    rw [outline_named, outlines, argsText, List.append_nil, hname]
  · exact reads_word hword hoption hargs

/-- What is not resolved is told by its mark. -/
theorem Shape.reads_unresolved : Shape.unresolved.Reads := by
  intro t rest rest' hclear _ _ heq
  rw [outline_unresolved] at heq
  rcases t.outlined hclear with ⟨cs, htext, -, -, -⟩ | ⟨name, args, htext, hword, -, -⟩ |
    ⟨htext, howned, hshape⟩
  · rw [htext] at heq
    cases (List.cons.inj heq).1
  · rw [htext, List.append_assoc] at heq
    exact absurd heq.symm (not_bracket_of_word hword _ _ (by decide))
  · rw [htext] at heq
    rw [hshape]
    exact ⟨howned, rfl, List.append_cancel_left heq⟩

theorem TypeRef.reads_mk {written inner : Source.Ty} {shape : Shape} {nullable byRef : Bool}
    (h : shape.Reads) : (TypeRef.mk written inner shape nullable byRef).Reads := by
  have howned : (TypeRef.mk written inner shape false byRef).Reads := by
    intro t rest rest' hclear hends hends' heq
    obtain ⟨hnullable, hsame, hrest⟩ := h t rest rest' hclear hends hends' heq
    obtain ⟨_, _, _, _, _⟩ := t
    cases hnullable
    exact ⟨Bool.and_eq_true_iff.2 ⟨hsame, rfl⟩, hrest⟩
  -- An optional type is written as a path of one argument, as one named `Option` would be.
  cases nullable with
  | false => exact howned
  | true =>
    intro t rest rest' hclear hends hends' heq
    have hword : IsWord "Option" := by decide
    have hargsText : '<' :: (shape.outline.toList ++ ['>']) =
        argsText (outlines [.mk written inner shape false byRef]) := by
      rw [outlines, outlines, argsText, String.intercalate_singleton]
      rfl
    rw [outline_of_nullable, hargsText, List.append_assoc] at heq
    rcases t.outlined hclear with ⟨cs, htext, -, -, -⟩ | ⟨name, args, htext, hword', hargs, hshape⟩ |
      ⟨htext, -, -⟩
    · rw [htext] at heq
      exact absurd heq (not_bracket_of_word hword _ _ (by decide))
    · rw [htext, List.append_assoc] at heq
      obtain ⟨rfl, htail⟩ := eq_of_word_append hword hword' (argsText_head _ hends)
        (argsText_head _ hends') heq
      obtain ⟨hsame, hrest⟩ := eq_of_argsText (List.forall_mem_singleton.2 howned) hargs hends
        hends' htail
      rcases hshape with ⟨-, -, hoption⟩ | ⟨hnullable, -, rfl⟩
      · exact absurd (length_of_sameAll _ _ hsame).symm (hoption rfl)
      · obtain ⟨_, _, _, _, _⟩ := t
        cases hnullable
        obtain ⟨hboth, -⟩ := Bool.and_eq_true_iff.1 hsame
        obtain ⟨hshapes, -⟩ := Bool.and_eq_true_iff.1 hboth
        exact ⟨Bool.and_eq_true_iff.2 ⟨hshapes, rfl⟩, hrest⟩
    · rw [htext] at heq
      exact absurd heq (not_bracket_of_word hword _ _ (by decide))

theorem allClear_of_named {name : String} {args : List TypeRef} (h : (Shape.named name args).Clear) :
    AllClear args := by
  rcases h with ⟨rfl, -⟩ | ⟨-, -, hargs⟩
  · exact trivial
  · exact hargs

mutual

theorem TypeRef.reads : ∀ t : TypeRef, t.Clear → t.Reads
  | .mk _ _ shape _ _, h => TypeRef.reads_mk (Shape.reads shape h)

theorem Shape.reads : ∀ shape : Shape, shape.Clear → shape.Reads
  | .named _ args, h => Shape.reads_named h (allRead args (allClear_of_named h))
  | .variadic, _ =>
    Shape.reads_brackets ['.', '.'] Shape.outline_variadic
      (closed_of_plain (forall_of_all (by decide))) (.inl ⟨rfl, by decide⟩)
  | .unresolved, _ => Shape.reads_unresolved

theorem allRead : ∀ ts : List TypeRef, AllClear ts → AllRead ts
  | [], _ => fun _ h => nomatch h
  | t :: rest, h => List.forall_mem_cons.2 ⟨TypeRef.reads t h.1, allRead rest h.2⟩

end

end TypedPreferences
