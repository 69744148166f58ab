import TypedPreferences.Conversion.Registry
import TypedPreferences.Proofs.Declared.Keys
import TypedPreferences.Proofs.Source.ProperTypes
import TypedPreferences.Source.Parse

/-! Types as they are declared and their keys: what types are compared by is what they are shown by,
unless a part of them is not resolved. -/

namespace TypedPreferences

open Source Text Bracketing

theorem isWord_of_name {name : String} (h : IsName name) : IsWord name := by
  have hspecial : ∀ c ∈ ['<', ',', '>', '['], c ∈ '\\' :: specials :=
    forall_of_all (by decide)
  obtain ⟨c, rest, htext, hc, hrest⟩ := h.exists_cons
  rw [IsWord, htext]
  refine ⟨List.cons_ne_nil c rest, List.forall_mem_cons.2 ⟨mt (hspecial c) hc, fun d hd => ?_⟩⟩
  rcases hrest d hd with rfl | hd
  · decide
  · exact mt (hspecial d) hd

/-- A shape whose key closes all brackets that it opens, and whose outline can be read back. -/
structure Shape.Sound (shape : Shape) : Prop where
  closed : ∀ written : Ty, IsPhrase written.tokens → Closed (shape.key written).toList
  clear : shape.Clear

theorem Shape.sound_unresolved : Shape.unresolved.Sound where
  closed _ h := closed_displayTokens h
  clear := trivial

/-- What a written type shows of itself is sound. The shape of an `Option` does not count: what it
holds counts in its place. -/
inductive View.Sound : View → Prop where
  | mk {core : Ty} {shape : Bool → Shape} {payload referent : Option View}
    (closed : ∀ byRef (written : Ty), IsPhrase written.tokens →
      Closed ((shape byRef).key written).toList)
    (clear : payload = none → ∀ byRef, (shape byRef).Clear)
    (hpayload : ∀ inner, payload = some inner → inner.Sound)
    (hreferent : ∀ inner, referent = some inner → inner.Sound) :
    View.Sound (.mk core shape payload referent)

theorem View.sound_plain {core : Ty} {shape : Bool → Shape} (h : ∀ byRef, (shape byRef).Sound) :
    View.Sound (.mk core shape none none) :=
  .mk (fun byRef => (h byRef).closed) (fun _ byRef => (h byRef).clear) nofun nofun

section View

variable {v inner : View}

theorem View.Sound.sound_shape (h : v.Sound) (hnone : v.payload = none) (byRef : Bool) :
    (v.shape byRef).Sound := by
  obtain ⟨hclosed, hclear, -, -⟩ := h
  exact ⟨hclosed byRef, hclear hnone byRef⟩

theorem View.Sound.payload (h : v.Sound) (hsome : v.payload = some inner) : inner.Sound := by
  obtain ⟨-, -, hpayload, -⟩ := h
  exact hpayload _ hsome

/-- What holds of a view and of the referent of a reference holds of what counts for the identity. -/
theorem View.target_of {P : View → Prop} (h : P v) (hreferent : ∀ inner, v.referent = some inner →
    P inner) : P (v.referent.getD v) := by
  cases hsome : v.referent with
  | none => exact h
  | some inner => exact hreferent inner hsome

theorem View.Sound.target (h : v.Sound) : (v.referent.getD v).Sound := by
  refine View.target_of h fun inner hsome => ?_
  obtain ⟨-, -, -, hinner⟩ := h
  exact hinner _ hsome

/-- The identity of a written type has a sound shape. -/
theorem View.Sound.toRef (h : v.Sound) (written : Ty) : (v.toRef written).shape.Sound := by
  unfold View.toRef
  dsimp only
  have htarget := h.target
  generalize v.referent.getD v = target at htarget ⊢
  cases hpayload : target.payload with
  | none => exact htarget.sound_shape hpayload _
  | some inner =>
    have hinner := htarget.payload hpayload
    cases hdeeper : inner.payload with
    -- An Option inside another is not resolved.
    | some deeper =>
      dsimp only
      rw [hdeeper]
      exact Shape.sound_unresolved
    | none =>
      dsimp only
      rw [hdeeper]
      exact hinner.sound_shape hdeeper _

end View

/-- A type that is read has a sound identity. -/
def TypeRef.Sound (t : TypeRef) : Prop :=
  t.shape.Sound ∧ IsPhrase t.written.tokens

theorem TypeRef.Sound.closed_key {t : TypeRef} (h : t.Sound) : Closed t.key.toList := by
  obtain ⟨_, _, _, _, _⟩ := t
  exact h.1.closed _ h.2

theorem TypeRef.Sound.closed_displayKey {t : TypeRef} (h : t.Sound) :
    Closed t.displayKey.toList := by
  have hkey := h.closed_key
  obtain ⟨written, inner, shape, nullable, byRef⟩ := t
  cases nullable with
  | false => exact hkey
  | true =>
    rw [displayKey_of_nullable]
    have hclosing := hkey.join closed_nil (c := '>') (by decide) (by decide)
    have hname : Closed "Option".toList := closed_of_plain (forall_of_all (by decide))
    exact hname.join hclosing (by decide) (by decide)

theorem TypeRef.Sound.clear {t : TypeRef} (h : t.Sound) : t.Clear := by
  obtain ⟨_, _, _, _, _⟩ := t
  exact h.1.clear

theorem View.Sound.ref {v : View} (h : v.Sound) {written : Ty} (hwritten : IsPhrase written.tokens) :
    (v.toRef written).Sound := by
  refine ⟨h.toRef written, ?_⟩
  have hkept : (v.toRef written).written = written := by
    unfold View.toRef
    dsimp only
    split <;> rfl
  rw [hkept]
  exact hwritten

theorem closed_displayKeys : ∀ {args : List TypeRef}, (∀ t ∈ args, t.Sound) →
    Closed (", ".intercalate (displayKeys args)).toList
  | [], _ => closed_nil
  | [t], h => by
    rw [displayKeys, displayKeys, String.intercalate_singleton]
    exact (h t List.mem_cons_self).closed_displayKey
  | t :: u :: rest, h => by
    have hrest := closed_displayKeys fun x hx => h x (List.mem_cons_of_mem t hx)
    rw [displayKeys] at hrest ⊢
    rw [displayKeys, intercalate_cons]
    have hblank := hrest.cons (c := ' ') (by decide) (by decide)
    exact (h t List.mem_cons_self).closed_displayKey.join hblank (by decide) (by decide)

theorem allClear_of_sound {args : List TypeRef} (h : ∀ t ∈ args, t.Sound) : AllClear args := by
  induction args with
  | nil => trivial
  | cons t rest ih =>
    obtain ⟨ht, hrest⟩ := List.forall_mem_cons.1 h
    exact ⟨ht.clear, ih hrest⟩

/-- A named shape is sound, unless it is an `Option` of one type. -/
theorem Shape.closed_named {name : String} {args : List TypeRef} (hname : Closed name.toList)
    (hargs : ∀ t ∈ args, t.Sound) (written : Ty) :
    Closed ((Shape.named name args).key written).toList := by
  rw [key_named]
  cases args with
  | nil =>
    rw [displayKeys, argsText, List.append_nil]
    exact hname
  | cons t rest =>
    have hclosing := (closed_displayKeys hargs).join closed_nil (c := '>') (by decide) (by decide)
    rw [displayKeys, argsText]
    exact hname.join hclosing (by decide) (by decide)

theorem pathShape_cases (name : String) (args : List TypeRef) (byRef : Bool) :
    pathShape name args byRef = .unresolved ∨ pathShape name args byRef = .named "String" [] ∨
      pathShape name args byRef = .named name args := by
  unfold pathShape
  split
  · exact .inl rfl
  split
  · exact .inr (.inl rfl)
  · exact .inr (.inr rfl)

theorem closed_pathShape {name : String} {args : List TypeRef} (hname : IsName name)
    (hargs : ∀ t ∈ args, t.Sound) (byRef : Bool) (written : Ty) (h : IsPhrase written.tokens) :
    Closed ((pathShape name args byRef).key written).toList := by
  rcases pathShape_cases name args byRef with hshape | hshape | hshape <;> rw [hshape]
  · exact closed_displayTokens h
  · exact Shape.closed_named (closed_of_plain (forall_of_all (by decide)))
      (fun _ h => absurd h List.not_mem_nil) written
  · exact Shape.closed_named hname.closed hargs written

theorem clear_pathShape {name : String} {args : List TypeRef} (hname : IsName name)
    (hargs : ∀ t ∈ args, t.Sound) (hoption : name = "Option" → args.length ≠ 1) (byRef : Bool) :
    (pathShape name args byRef).Clear := by
  rcases pathShape_cases name args byRef with hshape | hshape | hshape <;> rw [hshape]
  · exact trivial
  · exact Or.inr ⟨by decide, by decide, trivial⟩
  · exact Or.inr ⟨isWord_of_name hname, hoption, allClear_of_sound hargs⟩

theorem sound_pathView {core : Ty} {name : String} {args : List TypeRef} {payload : Option View}
    (hname : IsName name) (hargs : ∀ t ∈ args, t.Sound)
    (hoption : payload = none → name = "Option" → args.length ≠ 1)
    (hpayload : ∀ inner, payload = some inner → inner.Sound) :
    View.Sound (.mk core (pathShape name args) payload none) :=
  .mk (closed_pathShape hname hargs)
    (fun hnone byRef => clear_pathShape hname hargs (hoption hnone) byRef) hpayload nofun

theorem sound_sliceShape {element : TypeRef} (h : element.Sound) (byRef : Bool) :
    (sliceShape element byRef).Sound := by
  have hargs : ∀ t ∈ [element], t.Sound := List.forall_mem_singleton.2 h
  unfold sliceShape
  split
  · have hvec : Closed "Vec".toList := closed_of_plain (forall_of_all (by decide))
    refine ⟨fun written _ => Shape.closed_named hvec hargs written, ?_⟩
    exact Or.inr ⟨by decide, nofun, allClear_of_sound hargs⟩
  · refine ⟨fun written _ => ?_, trivial⟩
    have hdots : Closed ['.', '.'] := closed_of_plain (forall_of_all (by decide))
    rw [Shape.key_variadic]
    exact hdots.brackets

theorem sound_arrayShape {element : TypeRef} {length : List Token} (h : element.Sound)
    (hlength : IsPhrase length) : (arrayShape element length).Sound := by
  have hname : IsArrayName ("[" ++ element.key ++ "; " ++ displayTokens length ++ "]") := by
    have hblank := (closed_displayTokens hlength).cons (c := ' ') (by decide) (by decide)
    refine ⟨element.key.toList ++ ';' :: ' ' :: (displayTokens length).toList, ?_,
      h.closed_key.join hblank (by decide) (by decide), by simp⟩
    simp
  refine ⟨fun written _ => ?_, Or.inl ⟨rfl, hname⟩⟩
  obtain ⟨cs, hcs, hclosed, -⟩ := hname
  refine Shape.closed_named ?_ (fun _ h => absurd h List.not_mem_nil) written
  rw [hcs]
  exact hclosed.brackets

/-- What each typed argument shows is sound. -/
def AllSound (typed : List (Ty × View)) : Prop :=
  ∀ part ∈ typed, part.1.Proper ∧ part.2.Sound

theorem AllSound.refs {typed : List (Ty × View)} (h : AllSound typed) :
    ∀ t ∈ typed.map (fun (ty, v) => v.toRef ty), t.Sound := by
  intro t ht
  obtain ⟨⟨ty, v⟩, hpart, rfl⟩ := List.mem_map.1 ht
  obtain ⟨hty, hv⟩ := h _ hpart
  exact hv.ref hty.phrase

theorem single?_eq_some {α : Type} {l : List α} {a : α} : single? l = some a ↔ l = [a] := by
  rcases l with _ | ⟨b, _ | ⟨c, rest⟩⟩
  · exact ⟨nofun, nofun⟩
  · exact ⟨fun h => congrArg (fun x => [x]) (Option.some.inj h),
      fun h => congrArg some (List.cons.inj h).1⟩
  · exact ⟨nofun, nofun⟩

theorem sound_appliedView {core : Ty} {name : String} {typed : List (Ty × View)}
    (hname : IsName name) (h : AllSound typed) :
    View.Sound (.mk core (pathShape name (typed.map fun (ty, v) => v.toRef ty))
      (if name == "Option" then (single? typed).map (·.2) else none) none) := by
  refine sound_pathView hname h.refs (fun hnone hoption hlength => ?_) fun inner hinner => ?_
  · rw [hoption, if_pos (by decide), Option.map_eq_none_iff] at hnone
    rw [List.length_map, List.length_eq_one_iff] at hlength
    obtain ⟨part, hpart⟩ := hlength
    rw [single?_eq_some.2 hpart] at hnone
    cases hnone
  · split at hinner
    · obtain ⟨part, hpart, rfl⟩ := Option.map_eq_some_iff.1 hinner
      exact (h part (by rw [single?_eq_some.1 hpart]; exact List.mem_singleton_self _)).2
    · cases hinner

theorem View.Sound.parenthesised {v : View} (h : v.Sound) : v.parenthesised.Sound := by
  rcases h with ⟨hclosed, hclear, hpayload, -⟩
  exact .mk hclosed hclear hpayload nofun

mutual

theorem sound_view : ∀ t : Ty, t.Proper → (view t).Sound
  | .plain _ _, ⟨_, hname⟩ =>
    sound_pathView hname (fun _ h => nomatch h) (fun _ _ => nofun) nofun
  | .applied _ _ _ _ _, ⟨_, hname, hargs⟩ => sound_appliedView hname (sound_argViews _ hargs)
  | .projection _ _, _ => View.sound_plain fun _ => Shape.sound_unresolved
  | .reference _ _, ⟨_, hreferent⟩ =>
    .mk (fun _ _ => Shape.sound_unresolved.closed _) (fun _ _ => trivial) nofun
      fun _ h => Option.some.inj h ▸ sound_view _ hreferent
  | .slice element, h =>
    View.sound_plain (sound_sliceShape ((sound_view element h).ref (Ty.Proper.phrase h)))
  | .array _ _, ⟨helement, hlength⟩ =>
    View.sound_plain fun _ => sound_arrayShape ((sound_view _ helement).ref helement.phrase) hlength
  | .paren inner, h => (sound_view inner h).parenthesised
  | .other _, _ => View.sound_plain fun _ => Shape.sound_unresolved

theorem sound_argViews : ∀ args : List Arg, AllProper args → AllSound (argViews args)
  | [], _ => fun _ h => nomatch h
  | .type _ :: _, ⟨hty, hrest⟩ =>
    List.forall_mem_cons.2 ⟨⟨hty, sound_view _ hty⟩, sound_argViews _ hrest⟩
  | .lifetime _ :: rest, h => sound_argViews rest h.2
  | .other _ :: rest, h => sound_argViews rest h.2

end

theorem sound_ofTy {t : Ty} (h : t.Proper) : (TypeRef.ofTy t).Sound :=
  (sound_view t h).ref h.phrase

/-- Types have the same base exactly when their outlines are the same. -/
theorem sameBase_iff_outline_eq {s t : TypeRef} (hs : s.Sound) (ht : t.Sound)
    (hknown : s.isUnresolved = false) :
    s.sameBase t = true ↔ s.shape.outline = t.shape.outline := by
  obtain ⟨written, inner, shape, nullable, byRef⟩ := s
  obtain ⟨written', inner', shape', nullable', byRef'⟩ := t
  constructor
  · intro hsame
    exact Shape.outline_of_same shape shape' (Bool.and_eq_true_iff.1 hsame).1
  · intro houtline
    have hclear : (TypeRef.mk written' inner' shape' false byRef').Clear := ht.clear
    have hnil : Ends [] := nofun
    obtain ⟨-, hsame, -⟩ := Shape.reads shape hs.clear _ [] [] hclear hnil hnil
      (congrArg (·.toList ++ []) houtline)
    rw [TypeRef.sameBase, hknown]
    exact Bool.and_eq_true_iff.2 ⟨hsame, rfl⟩

theorem outline_eq_key {t : TypeRef} (h : t.resolved = true) : t.shape.outline = t.key := by
  obtain ⟨written, inner, shape, nullable, byRef⟩ := t
  exact Shape.outline_of_resolved written shape h

/-- What is compared of two types is their keys with all parts that are not resolved shown as one.
Where all parts are resolved, these are the keys, and a converter is found for no type of another
key. -/
theorem sameBase_iff_key_eq {a b : Ty} (ha : a.Proper) (hb : b.Proper)
    (hknown : (TypeRef.ofTy a).isUnresolved = false) :
    ((TypeRef.ofTy a).sameBase (TypeRef.ofTy b) = true ↔
        (TypeRef.ofTy a).shape.outline = (TypeRef.ofTy b).shape.outline) ∧
      ((TypeRef.ofTy a).resolved = true → (TypeRef.ofTy b).resolved = true →
        ((TypeRef.ofTy a).sameBase (TypeRef.ofTy b) = true ↔
          (TypeRef.ofTy a).key = (TypeRef.ofTy b).key) ∧
        ∀ registry : Registry, registry.flowsInto (TypeRef.ofTy a) (TypeRef.ofTy b) = true →
          (TypeRef.ofTy a).key = (TypeRef.ofTy b).key) := by
  have houtline := sameBase_iff_outline_eq (sound_ofTy ha) (sound_ofTy hb) hknown
  refine ⟨houtline, fun haresolved hbresolved => ?_⟩
  rw [outline_eq_key haresolved, outline_eq_key hbresolved] at houtline
  exact ⟨houtline, fun registry hflows => houtline.1 (Bool.and_eq_true_iff.1 hflows).1⟩

theorem sameBase_iff_key_eq_lists : ∃ a b : Ty, a.Proper ∧ b.Proper ∧
    (TypeRef.ofTy a).isUnresolved = false ∧ (TypeRef.ofTy a).resolved = true ∧
      (TypeRef.ofTy b).resolved = true ∧
      (TypeRef.ofTy a).sameBase (TypeRef.ofTy b) = true ∧
      (TypeRef.ofTy a).key = (TypeRef.ofTy b).key := by
  have hname : ∀ name ∈ ["Vec", "String", "str"], IsName name := by
    have hwhole : ∀ name ∈ ["Vec", "String", "str"],
        Lexeme.name? name.toList = some name.toList.length := by decide +kernel
    exact fun name h => ⟨name.toList, _, hwhole name h, (List.take_length).symm⟩
  have hsteps : Qualifier.Proper {} := fun _ h => nomatch h
  let a : Ty := .applied {} "Vec" false [.type (.plain {} "String")] false
  let b : Ty := .applied {} "Vec" false [.type (.reference [] (.plain {} "str"))] false
  have ha : a.Proper := ⟨hsteps, hname _ (by decide), ⟨hsteps, hname _ (by decide)⟩, trivial⟩
  have hb : b.Proper := ⟨hsteps, hname _ (by decide), ⟨.nil, hsteps, hname _ (by decide)⟩, trivial⟩
  obtain ⟨-, hresolved⟩ := sameBase_iff_key_eq ha hb rfl
  have hsame : (TypeRef.ofTy a).sameBase (TypeRef.ofTy b) = true := by decide +kernel
  exact ⟨a, b, ha, hb, rfl, rfl, rfl, hsame, (hresolved rfl rfl).1.1 hsame⟩

/-- Lists of different tuples have the same base, though their keys differ. -/
theorem not_sameBase_iff_key_eq_tuples : ∃ a b : Ty, typeOf? "Vec<(i32, i32)>" = some a ∧
    typeOf? "Vec<(u8, u8)>" = some b ∧ (TypeRef.ofTy a).isUnresolved = false ∧
      (TypeRef.ofTy b).isUnresolved = false ∧
      ¬ ((TypeRef.ofTy a).sameBase (TypeRef.ofTy b) = true ↔
        (TypeRef.ofTy a).key = (TypeRef.ofTy b).key) := by
  have hread : (typeOf? "Vec<(i32, i32)>").bind (fun a => (typeOf? "Vec<(u8, u8)>").map fun b =>
      ((TypeRef.ofTy a).isUnresolved, (TypeRef.ofTy b).isUnresolved,
        (TypeRef.ofTy a).sameBase (TypeRef.ofTy b),
        decide ((TypeRef.ofTy a).key = (TypeRef.ofTy b).key))) =
      some (false, false, true, false) := by
    decide +kernel
  obtain ⟨a, ha, hread⟩ := Option.bind_eq_some_iff.1 hread
  obtain ⟨b, hb, hfacts⟩ := Option.map_eq_some_iff.1 hread
  simp only [Prod.mk.injEq, decide_eq_false_iff_not] at hfacts
  obtain ⟨haknown, hbknown, hsame, hkeys⟩ := hfacts
  exact ⟨a, b, ha, hb, haknown, hbknown, fun h => hkeys (h.1 hsame)⟩

end TypedPreferences
