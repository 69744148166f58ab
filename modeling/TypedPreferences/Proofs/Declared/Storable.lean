import TypedPreferences.Declared.Primitive
import TypedPreferences.Proofs.Declared.Identity
import TypedPreferences.Proofs.Source.Displayed
import TypedPreferences.Source.Parse

/-! Which types are stored: a description by how a type is written, and that the kinds of values are
found by it. -/

namespace TypedPreferences

open Source Text Bracketing

namespace Source.Ty

/-- A type without the parentheses around it. -/
def bare : Ty → Ty
  | .paren inner => inner.bare
  | t => t

/-- A type without one reference around it and without parentheses. -/
def unreferenced : Ty → Ty
  | .reference _ referent => referent.bare
  | t => t.bare

def isReference : Ty → Bool
  | .reference _ _ => true
  | _ => false

def typesAmong : List Arg → List Ty
  | [] => []
  | .type ty :: rest => ty :: typesAmong rest
  | .lifetime _ :: rest => typesAmong rest
  | .other _ :: rest => typesAmong rest

/-- The last name of a path and its type arguments. -/
def path? : Ty → Option (String × List Ty)
  | .plain _ name => some (name, [])
  | .applied _ name _ args _ => some (name, typesAmong args)
  | _ => none

/-- What an `Option` of one type holds. -/
def optional? (t : Ty) : Option Ty :=
  t.path?.bind fun (name, types) => if name = "Option" then single? types else none

/-- A type without one reference around it, one `Option` and parentheses. -/
def base (t : Ty) : Ty :=
  match t.unreferenced.optional? with
  | some inner => inner.bare
  | none => t.unreferenced

/-- The type arguments of a path, or the element of a slice. -/
def elements (t : Ty) : List Ty :=
  match t with
  | .slice element => [element]
  | _ => (t.path?.map (·.2)).getD []

/-- A path that ends in a name without type arguments. -/
def IsNamed (t : Ty) (name : String) : Prop :=
  t.bare.path? = some (name, [])

/-- A path that ends in a name without type arguments, with a reference around it or not. A borrowed
`str` counts as a `String`. -/
def CountsAs (t : Ty) (name : String) : Prop :=
  t.unreferenced.path? = some (name, []) ∨
    (name = "String" ∧ t.isReference = true ∧ ∃ types, t.unreferenced.path? = some ("str", types))

def scalars : List (String × Primitive) :=
  [("bool", .boolean), ("i32", .integer), ("i64", .long), ("f32", .float), ("f64", .double),
    ("String", .text)]

/-- The kind of value as which a type is stored, with a reference around it or not, where it is told
which types are elements of a given name. -/
inductive StoredAs (element : Ty → String → Prop) : Bool → Ty → Primitive → Prop where
  | scalar {borrowed : Bool} {t : Ty} {name : String} {p : Primitive}
    (listed : (name, p) ∈ scalars) (path : t.path? = some (name, [])) :
    StoredAs element borrowed t p
  | bytes {borrowed : Bool} {t inner : Ty}
    (path : t.path? = some ("Vec", [inner])) (byte : element inner "u8") :
    StoredAs element borrowed t .byteSequence
  | texts {borrowed : Bool} {t inner : Ty} {name : String}
    (listed : name ∈ ["HashSet", "BTreeSet"]) (path : t.path? = some (name, [inner]))
    (text : element inner "String") : StoredAs element borrowed t .textSet
  | borrowedText {t : Ty} {types : List Ty} (path : t.path? = some ("str", types)) :
    StoredAs element true t .text
  | borrowedBytes {inner : Ty} (byte : element inner "u8") :
    StoredAs element true (.slice inner) .byteSequence

theorem bare_bare : ∀ t : Ty, t.bare.bare = t.bare
  | .paren inner => bare_bare inner
  | .plain _ _ => rfl
  | .applied _ _ _ _ _ => rfl
  | .projection _ _ => rfl
  | .reference _ _ => rfl
  | .slice _ => rfl
  | .array _ _ => rfl
  | .other _ => rfl

theorem unreferenced_of_owned {t : Ty} (h : t.isReference = false) : t.unreferenced = t.bare := by
  cases t with
  | reference _ _ => cases h
  | _ => rfl

theorem bare_unreferenced (t : Ty) : t.unreferenced.bare = t.unreferenced := by
  cases t <;> exact bare_bare _

theorem bare_base (t : Ty) : t.base.bare = t.base := by
  unfold base
  split
  · exact bare_bare _
  · exact bare_unreferenced t

/-- An owned element counts as what it names. -/
theorem countsAs_iff_isNamed {t : Ty} (h : t.isReference = false) (name : String) :
    t.CountsAs name ↔ t.IsNamed name := by
  rw [CountsAs, IsNamed, unreferenced_of_owned h, h]
  constructor
  · rintro (hpath | ⟨-, hborrowed, -⟩)
    · exact hpath
    · cases hborrowed
  · exact Or.inl

/-- Elements that are the same types may be exchanged. -/
theorem StoredAs.of_elements {element element' : Ty → String → Prop} {borrowed : Bool} {t : Ty}
    {p : Primitive} (h : ∀ inner ∈ t.elements, ∀ name, element inner name → element' inner name)
    (hstored : StoredAs element borrowed t p) : StoredAs element' borrowed t p := by
  have hinner : ∀ {t inner : Ty} {name : String}, t.path? = some (name, [inner]) →
      inner ∈ t.elements := by
    intro t inner name hpath
    cases t with
    | applied _ _ _ _ _ =>
      obtain ⟨-, htypes⟩ := Prod.mk.inj (Option.some.inj hpath)
      change inner ∈ typesAmong _
      rw [htypes]
      exact List.mem_singleton_self inner
    | _ => cases hpath
  cases hstored with
  | scalar listed path => exact .scalar listed path
  | bytes path byte => exact .bytes path (h _ (hinner path) _ byte)
  | texts listed path text => exact .texts listed path (h _ (hinner path) _ text)
  | borrowedText path => exact .borrowedText path
  | borrowedBytes byte => exact .borrowedBytes (h _ (List.mem_singleton_self _) _ byte)

end Source.Ty

open Source.Ty

theorem argViews_eq : ∀ args : List Arg, argViews args = (typesAmong args).map fun t => (t, view t)
  | [] => rfl
  | .type ty :: rest => congrArg ((ty, view ty) :: ·) (argViews_eq rest)
  | .lifetime _ :: rest => argViews_eq rest
  | .other _ :: rest => argViews_eq rest

theorem parenthesised_shape (v : View) : v.parenthesised.shape = v.shape := by
  cases v
  rfl

theorem parenthesised_payload (v : View) : v.parenthesised.payload = v.payload := by
  cases v
  rfl

/-- Parentheses do not count for the shape. -/
theorem shape_bare : ∀ t : Ty, (view t).shape = (view t.bare).shape
  | .paren inner => (parenthesised_shape (view inner)).trans (shape_bare inner)
  | .plain _ _ => rfl
  | .applied _ _ _ _ _ => rfl
  | .projection _ _ => rfl
  | .reference _ _ => rfl
  | .slice _ => rfl
  | .array _ _ => rfl
  | .other _ => rfl

theorem single?_map {α β : Type} (f : α → β) (l : List α) :
    single? (l.map f) = (single? l).map f := by
  rcases l with _ | ⟨a, _ | ⟨b, rest⟩⟩ <;> rfl

theorem optional?_of_path {t : Ty} {name : String} {types : List Ty}
    (h : t.path? = some (name, types)) :
    t.optional? = if name = "Option" then single? types else none := by
  rw [optional?, h, Option.bind_some]

/-- The payload of a type is what its `Option` holds. -/
theorem payload_eq : ∀ t : Ty, (view t).payload = t.bare.optional?.map view
  | .paren inner => (parenthesised_payload (view inner)).trans (payload_eq inner)
  | .plain q name => by
    change none = (plain q name).optional?.map view
    rw [optional?_of_path rfl]
    split <;> rfl
  | .applied q name turbofish args trailing => by
    change _ = (applied q name turbofish args trailing).optional?.map view
    rw [optional?_of_path rfl, view, View.payload, argViews_eq, single?_map, Option.map_map]
    by_cases hname : name = "Option"
    · rw [if_pos (beq_iff_eq.2 hname), if_pos hname]
      rfl
    · rw [if_neg (mt beq_iff_eq.1 hname), if_neg hname]
      rfl
  | .projection _ _ => rfl
  | .reference _ _ => rfl
  | .slice _ => rfl
  | .array _ _ => rfl
  | .other _ => rfl

theorem shape_of_path {name : String} {types : List Ty} {t : Ty}
    (h : t.path? = some (name, types)) :
    (view t).shape = pathShape name (types.map TypeRef.ofTy) := by
  cases t with
  | plain _ _ =>
    obtain ⟨rfl, rfl⟩ := Prod.mk.inj (Option.some.inj h)
    rfl
  | applied _ _ _ _ _ =>
    obtain ⟨rfl, rfl⟩ := Prod.mk.inj (Option.some.inj h)
    rw [view, View.shape, argViews_eq, List.map_map]
    rfl
  | _ => cases h

/-- How a type is written whose shape has a name. -/
inductive NamedBy (borrowed : Bool) : Ty → String → List TypeRef → Prop where
  | path {t : Ty} {name : String} {types : List Ty} (path : t.path? = some (name, types)) :
    NamedBy borrowed t name (types.map TypeRef.ofTy)
  | text {t : Ty} {types : List Ty} (path : t.path? = some ("str", types))
    (isBorrowed : borrowed = true) : NamedBy borrowed t "String" []
  | bytes {inner : Ty} (isBorrowed : borrowed = true) :
    NamedBy borrowed (.slice inner) "Vec" [TypeRef.ofTy inner]
  | array {inner : Ty} {length : List Token} {name : String} (bracket : '[' ∈ name.toList) :
    NamedBy borrowed (.array inner length) name []

theorem namedBy_of_path {borrowed : Bool} {t : Ty} {name : String} {types : List Ty}
    {args : List TypeRef} {written : String} (hpath : t.path? = some (written, types))
    (h : (view t).shape borrowed = .named name args) : NamedBy borrowed t name args := by
  rw [shape_of_path hpath] at h
  unfold pathShape at h
  split at h
  · cases h
  split at h
  · rename_i hborrowed
    obtain ⟨hborrowed, hname⟩ := Bool.and_eq_true_iff.1 hborrowed
    obtain ⟨rfl, rfl⟩ := Shape.named.inj h
    exact .text (beq_iff_eq.1 hname ▸ hpath) hborrowed
  · obtain ⟨rfl, rfl⟩ := Shape.named.inj h
    exact .path hpath

theorem namedBy_of_shape {borrowed : Bool} {name : String} {args : List TypeRef} : ∀ {t : Ty},
    (view t).shape borrowed = .named name args → NamedBy borrowed t.bare name args
  | .paren inner, h => by
    rw [view, parenthesised_shape] at h
    exact namedBy_of_shape (t := inner) h
  | .plain _ _, h => namedBy_of_path rfl h
  | .applied _ _ _ _ _, h => namedBy_of_path rfl h
  | .projection _ _, h => nomatch h
  | .reference _ _, h => nomatch h
  | .slice inner, h => by
    change sliceShape (TypeRef.ofTy inner) borrowed = _ at h
    unfold sliceShape at h
    split at h
    · rename_i hbyte
      obtain ⟨rfl, rfl⟩ := Shape.named.inj h
      exact .bytes (Bool.and_eq_true_iff.1 (Bool.and_eq_true_iff.1 hbyte).1).1
    · cases h
  | .array inner length, h => by
    obtain ⟨rfl, rfl⟩ := Shape.named.inj h
    exact .array (by simp)
  | .other _, h => nomatch h

theorem NamedBy.without_args {borrowed : Bool} {t : Ty} {name : String}
    (h : NamedBy borrowed t name []) : t.path? = some (name, []) ∨
      (name = "String" ∧ borrowed = true ∧ ∃ types, t.path? = some ("str", types)) ∨
      '[' ∈ name.toList := by
  generalize hargs : ([] : List TypeRef) = args at h
  cases h with
  | path path =>
    rw [List.map_eq_nil_iff.1 hargs.symm] at path
    exact .inl path
  | text path isBorrowed => exact .inr (.inl ⟨rfl, isBorrowed, _, path⟩)
  | bytes => cases hargs
  | array bracket => exact .inr (.inr bracket)

theorem NamedBy.with_arg {borrowed : Bool} {t : Ty} {name : String} {e : TypeRef}
    (h : NamedBy borrowed t name [e]) : ∃ inner, e = TypeRef.ofTy inner ∧
      (t.path? = some (name, [inner]) ∨
        (name = "Vec" ∧ borrowed = true ∧ t = .slice inner)) := by
  generalize hargs : [e] = args at h
  cases h with
  | path path =>
    obtain ⟨inner, rfl, he⟩ := List.map_eq_singleton_iff.1 hargs.symm
    exact ⟨inner, he.symm, .inl path⟩
  | bytes isBorrowed =>
    cases hargs
    exact ⟨_, rfl, .inr ⟨rfl, isBorrowed, rfl⟩⟩
  | text => cases hargs
  | array => cases hargs

/-- What counts for the identity of a type: the type without its outer reference and parentheses
shows the shape, and its `Option` the payload. -/
theorem target_eq (t : Ty) : ((view t).referent.getD (view t)).shape = (view t.unreferenced).shape ∧
    ((view t).referent.getD (view t)).payload = t.unreferenced.optional?.map view ∧
    (view t).referent.isSome = t.isReference := by
  cases t with
  | reference _ referent => exact ⟨shape_bare referent, payload_eq referent, rfl⟩
  | paren inner =>
    have hnone : (view (.paren inner)).referent = none := by
      rw [view]
      cases view inner
      rfl
    rw [hnone]
    exact ⟨shape_bare (.paren inner), payload_eq (.paren inner), rfl⟩
  | plain q name => exact ⟨rfl, payload_eq (.plain q name), rfl⟩
  | applied q name turbofish args trailing =>
    exact ⟨rfl, payload_eq (.applied q name turbofish args trailing), rfl⟩
  | projection _ _ => exact ⟨rfl, rfl, rfl⟩
  | slice _ => exact ⟨rfl, rfl, rfl⟩
  | array _ _ => exact ⟨rfl, rfl, rfl⟩
  | other _ => exact ⟨rfl, rfl, rfl⟩

theorem nullable_ofTy (t : Ty) : (TypeRef.ofTy t).nullable = t.unreferenced.optional?.isSome := by
  obtain ⟨-, hpayload, -⟩ := target_eq t
  rw [TypeRef.ofTy, View.toRef]
  dsimp only
  cases hoption : t.unreferenced.optional? with
  | none => 
    rw [hoption, Option.map_none] at hpayload
    rw [hpayload]
    rfl
  | some inner =>
    rw [hoption, Option.map_some] at hpayload
    rw [hpayload]
    rfl

/-- The shape of a type is the one of its base, unless that is an `Option` once more. -/
theorem shape_ofTy (t : Ty) : (TypeRef.ofTy t).shape =
    if t.base.optional?.isSome then .unresolved else (view t.base).shape t.isReference := by
  obtain ⟨hshape, hpayload, hborrowed⟩ := target_eq t
  rw [TypeRef.ofTy, View.toRef, hborrowed]
  dsimp only
  cases hoption : t.unreferenced.optional? with
  | none =>
    rw [hoption, Option.map_none] at hpayload
    have hbase : t.base = t.unreferenced := by
      rw [base, hoption]
    rw [hpayload, hbase, hoption]
    exact congrFun hshape _
  | some inner =>
    rw [hoption, Option.map_some] at hpayload
    have hbase : t.base = inner.bare := by
      rw [base, hoption]
    rw [hpayload, hbase]
    dsimp only [TypeRef.shape]
    rw [payload_eq, Option.isSome_map, shape_bare inner]

theorem key_ofTy (t : Ty) : (TypeRef.ofTy t).key = (TypeRef.ofTy t).shape.key t := by
  rw [TypeRef.ofTy, View.toRef]
  dsimp only
  split <;> rfl

theorem base_of_not_optional {t : Ty} (h : t.unreferenced.optional? = none) :
    t.base = t.unreferenced := by
  rw [base, h]

/-- A base that is a path other than an `Option` shows the shape of the path. -/
theorem shape_of_base_path {t : Ty} {name : String} {types : List Ty}
    (h : t.base.path? = some (name, types)) (hname : name ≠ "Option") :
    (TypeRef.ofTy t).shape = pathShape name (types.map TypeRef.ofTy) t.isReference := by
  rw [shape_ofTy, optional?_of_path h, if_neg hname, shape_of_path h]
  rfl

theorem pathShape_eq_named {name : String} {args : List TypeRef} {borrowed : Bool}
    (h : name ∉ ["Self", "str"]) : pathShape name args borrowed = .named name args := by
  simp only [List.mem_cons, List.not_mem_nil, or_false, not_or] at h
  rw [pathShape, beq_false_of_ne h.1, beq_false_of_ne h.2, Bool.and_false]
  rfl

/-- A shape that is shown by a plain word has that name, or nothing of it is resolved. -/
theorem Shape.eq_named_of_key {shape : Shape} {written : Ty} {word : String}
    (hword : IsPlainWord word) (h : shape.key written = word) :
    shape = .named word [] ∨ (shape = .unresolved ∧ displayTokens written.tokens = word) := by
  -- Any other shape shows a bracket or an angle mark, which no plain word has.
  cases shape with
  | unresolved => exact .inr ⟨rfl, h⟩
  | variadic =>
    have hbracket : '[' ∈ word.toList := by
      rw [← h, Shape.key_variadic]
      exact List.mem_cons_self
    exact absurd (hword.1 '[' hbracket) (by decide)
  | named name args =>
    have htext := Shape.key_named written name args
    rw [h] at htext
    cases args with
    | nil =>
      rw [displayKeys, argsText, List.append_nil] at htext
      rw [String.toList_inj.1 htext]
      exact .inl rfl
    | cons t rest =>
      have hangle : '<' ∈ word.toList := by
        rw [htext]
        exact List.mem_append_right _ List.mem_cons_self
      exact absurd (hword.1 '<' hangle) (by decide)

/-- A proper type of one word is a path of that name. -/
theorem eq_plain_of_tokens {t : Ty} {word : String} (ht : t.Proper)
    (htokens : t.tokens = [.ident word]) (hword : word ∉ keywords) : ∃ q, t = .plain q word := by
  have hunnamed : ¬ Unnamed [.ident word] := by
    rintro ⟨t, ht, hkeyword⟩
    exact hword (hkeyword word (List.mem_singleton.1 ht))
  cases t with
  | plain q name =>
    rw [tokens, ← List.nil_append [Token.ident word]] at htokens
    obtain ⟨-, hname⟩ := List.append_inj' htokens rfl
    cases hname
    exact ⟨q, rfl⟩
  | applied q name turbofish args trailing =>
    have hlength := congrArg List.length htokens
    rw [tokens, Token.angled] at hlength
    simp only [List.length_append, List.length_cons, List.length_nil] at hlength
    omega
  | projection spelling last => exact absurd (htokens ▸ ht.2) hunnamed
  | other spelling => exact absurd (htokens ▸ ht.2) hunnamed
  | reference _ _ => cases htokens
  | slice _ => cases htokens
  | array _ _ => cases htokens
  | paren _ => cases htokens

/-- A type is an element of a given name exactly when it counts as one. -/
theorem countsAs_iff {t : Ty} (ht : t.Proper) {word : String} (hword : word ∈ ["u8", "String"]) :
    ((TypeRef.ofTy t).nullable = false ∧ (TypeRef.ofTy t).key = word) ↔ t.CountsAs word := by
  have hplain : IsPlainWord word := by
    rcases List.mem_cons.1 hword with rfl | hword
    · exact ⟨forall_of_all (by decide), 'u', rfl, by decide, by decide⟩
    · cases List.mem_singleton.1 hword
      exact ⟨forall_of_all (by decide), 'S', rfl, by decide, by decide⟩
  have hne : ∀ other, other ∉ ["u8", "String"] → word ≠ other := fun other hother heq =>
    hother (heq ▸ hword)
  constructor
  · rintro ⟨hnullable, hkey⟩
    rw [key_ofTy] at hkey
    rcases Shape.eq_named_of_key hplain hkey with hshape | ⟨-, hdisplay⟩
    · rw [nullable_ofTy, Option.isSome_eq_false_iff, Option.isNone_iff_eq_none] at hnullable
      rw [shape_ofTy] at hshape
      split at hshape
      · cases hshape
      have hnamed := namedBy_of_shape hshape
      rw [bare_base, base_of_not_optional hnullable] at hnamed
      rcases hnamed.without_args with hpath | hborrowed | hbracket
      · exact .inl hpath
      · exact .inr hborrowed
      · exact absurd (hplain.1 '[' hbracket) (by decide)
    · have htokens := eq_ident_of_displayTokens ht.phrase hdisplay hplain
      -- Neither word is a keyword, so a type that is spelled by it alone is a plain name.
      have hkeyword : ∀ word ∈ ["u8", "String"], word ∉ keywords := by decide
      obtain ⟨q, rfl⟩ := eq_plain_of_tokens ht htokens (hkeyword word hword)
      exact .inl rfl
  · intro hcounts
    have hpath : ∃ name types, t.unreferenced.path? = some (name, types) ∧ name ≠ "Option" ∧
        pathShape name (types.map TypeRef.ofTy) t.isReference = .named word [] := by
      rcases hcounts with hpath | ⟨rfl, hborrowed, types, hpath⟩
      · refine ⟨word, [], hpath, hne "Option" (by decide), pathShape_eq_named ?_⟩
        simp [hne "Self" (by decide), hne "str" (by decide)]
      · exact ⟨"str", types, hpath, by decide, by rw [hborrowed]; rfl⟩
    obtain ⟨name, types, hpath, hoption, hshape⟩ := hpath
    have hnone : t.unreferenced.optional? = none := by
      rw [optional?_of_path hpath, if_neg hoption]
    rw [← base_of_not_optional hnone] at hpath
    rw [nullable_ofTy, hnone, key_ofTy, shape_of_base_path hpath hoption, hshape]
    exact ⟨rfl, rfl⟩

/-- What is found for a kind of value. -/
theorem TypeRef.of_primitive? {t : TypeRef} {p : Primitive} (h : t.primitive? = some p) :
    (∃ name, (name, p) ∈ scalars ∧ t.shape = .named name []) ∨
      (∃ e, t.shape = .named "Vec" [e] ∧ (e.nullable = false ∧ e.key = "u8") ∧
        p = .byteSequence) ∨
      (∃ name e, name ∈ ["HashSet", "BTreeSet"] ∧ t.shape = .named name [e] ∧
        (e.nullable = false ∧ e.key = "String") ∧ p = .textSet) := by
  unfold primitive? at h
  -- One branch for each scalar, and one for types of an element, told apart by name and key.
  split at h
  case h_7 _ name e hshape =>
    split at h
    · rename_i hbytes
      cases h
      simp only [Bool.and_eq_true, beq_iff_eq, Bool.not_eq_true'] at hbytes
      obtain ⟨⟨rfl, hnullable⟩, hkey⟩ := hbytes
      exact .inr (.inl ⟨e, hshape, ⟨hnullable, hkey⟩, rfl⟩)
    split at h
    · rename_i htexts
      cases h
      simp only [Bool.and_eq_true, Bool.or_eq_true, beq_iff_eq, Bool.not_eq_true'] at htexts
      obtain ⟨⟨hname, hnullable⟩, hkey⟩ := htexts
      refine .inr (.inr ⟨name, e, ?_, hshape, ⟨hnullable, hkey⟩, rfl⟩)
      simpa using hname
    · cases h
  case h_8 => cases h
  all_goals
    cases h
    refine .inl ⟨_, ?_, ‹_›⟩
    decide

theorem Source.Ty.Proper.bare : ∀ {t : Ty}, t.Proper → t.bare.Proper
  | .paren inner, h => Proper.bare (t := inner) h
  | .plain _ _, h => h
  | .applied _ _ _ _ _, h => h
  | .projection _ _, h => h
  | .reference _ _, h => h
  | .slice _, h => h
  | .array _ _, h => h
  | .other _, h => h

theorem Source.AllProper.typesAmong : ∀ args : List Arg, AllProper args →
    ∀ t ∈ typesAmong args, t.Proper
  | [], _ => fun _ h => nomatch h
  | .type _ :: rest, ⟨hty, hrest⟩ => List.forall_mem_cons.2 ⟨hty, AllProper.typesAmong rest hrest⟩
  | .lifetime _ :: rest, h => AllProper.typesAmong rest h.2
  | .other _ :: rest, h => AllProper.typesAmong rest h.2

theorem Source.Ty.Proper.path {t : Ty} (ht : t.Proper) {name : String} {types : List Ty}
    (h : t.path? = some (name, types)) : ∀ inner ∈ types, inner.Proper := by
  cases t with
  | plain _ _ =>
    cases h
    exact fun _ h => nomatch h
  | applied _ _ _ _ _ =>
    cases h
    exact AllProper.typesAmong _ ht.2.2
  | _ => cases h

theorem Source.Ty.Proper.unreferenced {t : Ty} (ht : t.Proper) : t.unreferenced.Proper := by
  cases t with
  | reference _ _ => exact Proper.bare ht.2
  | _ => exact Proper.bare ht

theorem Source.Ty.Proper.base {t : Ty} (ht : t.Proper) : t.base.Proper := by
  unfold Ty.base
  split
  · rename_i inner hoption
    obtain ⟨⟨name, types⟩, hpath, hsingle⟩ := Option.bind_eq_some_iff.1 hoption
    obtain ⟨-, hsingle⟩ := Option.ite_none_right_eq_some.1 hsingle
    refine (ht.unreferenced.path hpath inner ?_).bare
    rw [single?_eq_some.1 hsingle]
    exact List.mem_singleton_self inner
  · exact ht.unreferenced

/-- What is found for a type is how it is stored. -/
theorem storedAs_of_primitive? {t : Ty} (ht : t.Proper) {p : Primitive}
    (h : (TypeRef.ofTy t).primitive? = some p) : StoredAs CountsAs t.isReference t.base p := by
  have hbase := ht.base
  have hnamed : ∀ {name args}, (TypeRef.ofTy t).shape = .named name args →
      NamedBy t.isReference t.base name args := by
    intro name args hshape
    rw [shape_ofTy] at hshape
    split at hshape
    · cases hshape
    · exact bare_base t ▸ namedBy_of_shape hshape
  rcases TypeRef.of_primitive? h with ⟨name, hlisted, hshape⟩ | ⟨e, hshape, hbyte, rfl⟩ |
    ⟨name, e, hlisted, hshape, htext, rfl⟩
  · rcases (hnamed hshape).without_args with hpath | ⟨rfl, hborrowed, types, hpath⟩ | hbracket
    · exact .scalar hlisted hpath
    · -- A borrowed `str` has the shape of a `String`, and that is listed as text alone.
      have hp : ∀ p, ("String", p) ∈ scalars → p = .text := by
        intro p
        cases p <;> decide
      rw [hp p hlisted, hborrowed]
      exact .borrowedText hpath
    · -- No kind is listed under the name of a slice.
      have hno : ∀ entry ∈ scalars, '[' ∉ entry.1.toList := by decide
      exact absurd hbracket (hno _ hlisted)
  · obtain ⟨inner, rfl, hpath | ⟨-, hborrowed, hslice⟩⟩ := (hnamed hshape).with_arg
    · have hinner := hbase.path hpath inner (List.mem_singleton_self inner)
      exact .bytes hpath ((countsAs_iff hinner (by decide)).1 hbyte)
    · rw [hslice] at hbase ⊢
      rw [hborrowed]
      have hinner : inner.Proper := hbase
      exact .borrowedBytes ((countsAs_iff hinner (by decide)).1 hbyte)
  · obtain ⟨inner, rfl, hpath | ⟨rfl, -⟩⟩ := (hnamed hshape).with_arg
    · have hinner := hbase.path hpath inner (List.mem_singleton_self inner)
      exact .texts hlisted hpath ((countsAs_iff hinner (by decide)).1 htext)
    · exact absurd hlisted (by decide)

theorem primitive?_of_scalar {t : TypeRef} {name : String} {p : Primitive}
    (hlisted : (name, p) ∈ scalars) (h : t.shape = .named name []) : t.primitive? = some p := by
  simp only [scalars, List.mem_cons, Prod.mk.injEq, List.not_mem_nil, or_false] at hlisted
  rcases hlisted with ⟨rfl, rfl⟩ | ⟨rfl, rfl⟩ | ⟨rfl, rfl⟩ | ⟨rfl, rfl⟩ | ⟨rfl, rfl⟩ | ⟨rfl, rfl⟩ <;>
    simp [TypeRef.primitive?, h]

theorem primitive?_of_bytes {t e : TypeRef} (h : t.shape = .named "Vec" [e])
    (hbyte : e.nullable = false ∧ e.key = "u8") : t.primitive? = some .byteSequence := by
  simp [TypeRef.primitive?, h, hbyte]

theorem primitive?_of_texts {t e : TypeRef} {name : String} (hlisted : name ∈ ["HashSet", "BTreeSet"])
    (h : t.shape = .named name [e]) (htext : e.nullable = false ∧ e.key = "String") :
    t.primitive? = some .textSet := by
  simp only [List.mem_cons, List.not_mem_nil, or_false] at hlisted
  rcases hlisted with rfl | rfl <;> simp [TypeRef.primitive?, h, htext]

/-- How a type is stored is found for it. -/
theorem primitive?_of_storedAs {t : Ty} (ht : t.Proper) {p : Primitive}
    (h : StoredAs CountsAs t.isReference t.base p) : (TypeRef.ofTy t).primitive? = some p := by
  have hbase := ht.base
  generalize hborrowed : t.isReference = borrowed at h
  generalize hu : t.base = u at h hbase
  -- One case for each way in which a type may be stored; its base tells which it is.
  cases h with
  | @scalar _ _ name _ listed path =>
    have hnames : ∀ entry ∈ scalars, entry.1 ≠ "Option" ∧ entry.1 ∉ ["Self", "str"] := by decide
    obtain ⟨hoption, hname⟩ := hnames _ listed
    refine primitive?_of_scalar listed ?_
    rw [shape_of_base_path (hu ▸ path) hoption, pathShape_eq_named hname]
    rfl
  | @bytes _ _ inner path byte =>
    have hinner := hbase.path path inner (List.mem_singleton_self inner)
    refine primitive?_of_bytes ?_ ((countsAs_iff hinner (by decide)).2 byte)
    rw [shape_of_base_path (hu ▸ path) (by decide), pathShape_eq_named (by decide)]
    rfl
  | @texts _ _ inner name listed path text =>
    have hinner := hbase.path path inner (List.mem_singleton_self inner)
    have hnames : ∀ name ∈ ["HashSet", "BTreeSet"], name ≠ "Option" ∧ name ∉ ["Self", "str"] := by
      decide
    obtain ⟨hoption, hname⟩ := hnames name listed
    refine primitive?_of_texts listed ?_ ((countsAs_iff hinner (by decide)).2 text)
    rw [shape_of_base_path (hu ▸ path) hoption, pathShape_eq_named hname]
    rfl
  | borrowedText path =>
    have hlisted : ("String", Primitive.text) ∈ scalars := by decide
    refine primitive?_of_scalar hlisted ?_
    rw [shape_of_base_path (hu ▸ path) (by decide), hborrowed]
    rfl
  | @borrowedBytes inner byte =>
    have hinner : inner.Proper := hbase
    have hbyte := (countsAs_iff hinner (by decide)).2 byte
    refine primitive?_of_bytes ?_ hbyte
    have hslice : (TypeRef.ofTy t).shape = sliceShape (TypeRef.ofTy inner) true := by
      rw [shape_ofTy, hu, hborrowed]
      rfl
    rw [hslice, sliceShape, hbyte.1, hbyte.2]
    rfl

/-- A kind of value is found for exactly the types that are stored as it. An element counts whether
there is a reference around it or not; where no element is borrowed, it is the type that it names. -/
theorem found_iff_storedAs {t : Ty} (ht : t.Proper) (p : Primitive) :
    ((TypeRef.ofTy t).primitive? = some p ↔ StoredAs CountsAs t.isReference t.base p) ∧
      ((∀ inner ∈ t.base.elements, inner.isReference = false) →
        ((TypeRef.ofTy t).primitive? = some p ↔ StoredAs IsNamed t.isReference t.base p)) := by
  have hstored : (TypeRef.ofTy t).primitive? = some p ↔ StoredAs CountsAs t.isReference t.base p :=
    ⟨storedAs_of_primitive? ht, primitive?_of_storedAs ht⟩
  refine ⟨hstored, fun howned => hstored.trans ⟨fun h => ?_, fun h => ?_⟩⟩
  · exact h.of_elements fun inner hinner name => (countsAs_iff_isNamed (howned inner hinner) name).1
  · exact h.of_elements fun inner hinner name => (countsAs_iff_isNamed (howned inner hinner) name).2

theorem found_iff_storedAs_textSet :
    let t := Ty.applied {} "HashSet" false [.type (.plain {} "String")] false
    t.Proper ∧ (TypeRef.ofTy t).primitive? = some .textSet ∧
      StoredAs IsNamed t.isReference t.base .textSet := by
  intro t
  have hname : ∀ name ∈ ["HashSet", "String"], IsName name := by
    have hwhole : ∀ name ∈ ["HashSet", "String"],
        Lexeme.name? name.toList = some name.toList.length := by decide +kernel
    exact fun name h => ⟨name.toList, _, hwhole name h, (List.take_length).symm⟩
  have hsteps : Qualifier.Proper {} := fun _ h => nomatch h
  have hproper : t.Proper :=
    ⟨hsteps, hname _ (by decide), ⟨hsteps, hname _ (by decide)⟩, trivial⟩
  have howned : ∀ inner ∈ t.base.elements, inner.isReference = false := by
    intro inner hinner
    cases List.mem_singleton.1 hinner
    rfl
  obtain ⟨-, hstored⟩ := found_iff_storedAs hproper .textSet
  have hfound : (TypeRef.ofTy t).primitive? = some .textSet := by decide +kernel
  exact ⟨hproper, hfound, (hstored howned).1 hfound⟩

/-- A set of borrowed texts is stored as a set of texts, though its elements are no `String`. -/
theorem not_found_iff_storedAs_borrowed : ∃ t : Ty, typeOf? "HashSet<&'static str>" = some t ∧
    (TypeRef.ofTy t).primitive? = some .textSet ∧
      ¬ StoredAs IsNamed t.isReference t.base .textSet := by
  have hread : (typeOf? "HashSet<&'static str>").map (fun t => ((TypeRef.ofTy t).primitive?,
      t.base.path?.map fun (name, types) => (name, types.map fun inner => inner.bare.path?.isSome))) =
      some (some .textSet, some ("HashSet", [false])) := by
    decide +kernel
  obtain ⟨t, ht, hfacts⟩ := Option.map_eq_some_iff.1 hread
  obtain ⟨hfound, hshown⟩ := Prod.mk.inj hfacts
  refine ⟨t, ht, hfound, fun hstored => ?_⟩
  obtain ⟨⟨name, types⟩, hpath, hnamed⟩ := Option.map_eq_some_iff.1 hshown
  obtain ⟨-, hnone⟩ := Prod.mk.inj hnamed
  -- The element is no path, so that it names nothing.
  have helement : ∀ {inner name}, t.base.path? = some (name, [inner]) → inner.bare.path? = none := by
    intro inner name hpath'
    rw [hpath] at hpath'
    obtain ⟨-, rfl⟩ := Prod.mk.inj (Option.some.inj hpath')
    exact Option.isSome_eq_false_iff.1 (List.cons.inj hnone).1 |> Option.isNone_iff_eq_none.1
  generalize t.base = u at hstored helement
  generalize t.isReference = borrowed at hstored
  generalize hkind : Primitive.textSet = kind at hstored
  cases hstored with
  | texts listed path text =>
    rw [IsNamed, helement path] at text
    cases text
  | scalar listed path =>
    subst hkind
    have hno : ∀ name, (name, Primitive.textSet) ∉ scalars := by
      intro name hmem
      simp [scalars] at hmem
    exact hno _ listed
  | _ => cases hkind

end TypedPreferences
