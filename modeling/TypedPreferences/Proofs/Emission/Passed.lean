import TypedPreferences.Emission.Steps
import TypedPreferences.Proofs.Declared.Held

/-! The expressions that generated source writes around a value before a converter function or the
store takes it, as trees, with rules that say how their values are held. -/

namespace TypedPreferences.Emission

open Source

/-- How the store takes a value of a kind: an option of a view where it tells that an entry is
missing, and the value itself elsewhere. -/
def slot (kind : Primitive) : Holding :=
  if kind.isExistenceChecked then .optional (.borrowed .itself) else .itself

/-- An expression that is written around a value under the name `value`. -/
inductive Passed where
  | value
  | cloned (e : Passed)
  -- An option that holds the value.
  | wrapped (e : Passed)
  | referred (e : Passed)
  -- A set made anew of the elements.
  | collected (e : Passed)
  | called (f : ConverterFn) (e : Passed)
  -- A view of a text or of bytes, by a method of the value.
  | viewed (method : String) (e : Passed)
  -- An option of a view, where the value may be missing.
  | viewedInside (e : Passed)
  -- A reference to a sorted set of the elements.
  | sorted (e : Passed)
  -- An option of one, where the value may be missing.
  | sortedInside (e : Passed)

namespace Passed

/-- The tokens of a method that is called with some arguments. -/
def method (name : String) (args : List Token) : List Token :=
  [.punct '.' false, .ident name, .group .paren args]

/-- The methods that make a sorted set, whose type is spelled out. -/
def sorting (set : List Token) : List Token :=
  method "iter" [] ++ method "cloned" [] ++
    [.punct '.' false, .ident "collect", .punct ':' true, .punct ':' false, .punct '<' false] ++
    set ++ [.punct '>' false, .group .paren []]

def tokens (set : List Token) : Passed → List Token
  | value => [.ident "value"]
  | cloned e => e.tokens set ++ method "clone" []
  | wrapped e => fill [] "::core::option::Option::Some" ++ Token.parens (e.tokens set)
  | referred e => .punct '&' false :: e.tokens set
  | collected e => e.tokens set ++ method "into_iter" [] ++ method "collect" []
  | called f e => f.path.tokens ++ Token.parens (e.tokens set)
  | viewed name e => e.tokens set ++ method name []
  | viewedInside e => e.tokens set ++ method "as_deref" []
  | sorted e => .punct '&' false :: (e.tokens set ++ sorting set)
  | sortedInside e =>
    e.tokens set ++ method "as_ref" [] ++
      method "map" ([.punct '|' false, .ident "set", .punct '|' false, .ident "set"] ++
        sorting set) ++ method "as_ref" []

/-- An expression and the expressions in it. -/
def parts : Passed → List Passed
  | value => [value]
  | cloned e => cloned e :: e.parts
  | wrapped e => wrapped e :: e.parts
  | referred e => referred e :: e.parts
  | collected e => collected e :: e.parts
  | called f e => called f e :: e.parts
  | viewed name e => viewed name e :: e.parts
  | viewedInside e => viewedInside e :: e.parts
  | sorted e => sorted e :: e.parts
  | sortedInside e => sortedInside e :: e.parts

/-- How the value of an expression is held when `value` is held in a given way. A function is given
its argument just as it declares its parameter, what is an option already is not wrapped once more,
and methods see through references to the value. -/
inductive Held (v : Holding) : Passed → Holding → Prop where
  | value : Held v .value v
  | cloned {e : Passed} {h : Holding} (inside : Held v e (.borrowed h)) : Held v (.cloned e) h
  | wrapped {e : Passed} {h : Holding} (inside : Held v e h) (present : h.options = 0) :
    Held v (.wrapped e) (.optional h)
  | referred {e : Passed} {h : Holding} (inside : Held v e h) : Held v (.referred e) (.borrowed h)
  | collected {e : Passed} (inside : Held v e .itself) : Held v (.collected e) .itself
  | called {f : ConverterFn} {e : Passed} (argument : Held v e f.receiver.holding) :
    Held v (.called f e) f.output.holding
  | viewed {name : String} {e : Passed} {h : Holding} (view : name ∈ ["as_slice", "as_str"])
    (inside : Held v e h) (present : h.target = .itself) :
    Held v (.viewed name e) (.borrowed .itself)
  | viewedInside {e : Passed} {h : Holding} (inside : Held v e h)
    (option : h.target = .optional .itself) :
    Held v (.viewedInside e) (.optional (.borrowed .itself))
  | sorted {e : Passed} {h : Holding} (inside : Held v e h) (present : h.target = .itself) :
    Held v (.sorted e) (.borrowed .itself)
  | sortedInside {e : Passed} {h : Holding} (inside : Held v e h)
    (option : h.target = .optional .itself) :
    Held v (.sortedInside e) (.optional (.borrowed .itself))

/-- The value of an expression is held in one way. -/
theorem Held.unique {v : Holding} {e : Passed} {h h' : Holding} (held : Held v e h)
    (held' : Held v e h') : h' = h := by
  -- The outermost part of the expression tells by which rule its value is held.
  induction held generalizing h' with
  | value =>
    cases held'
    rfl
  | cloned _ ih =>
    cases held' with
    | cloned inside' =>
      have hinside := ih inside'
      cases hinside
      rfl
  | wrapped _ _ ih =>
    cases held' with
    | wrapped inside' _ => rw [ih inside']
  | referred _ ih =>
    cases held' with
    | referred inside' => rw [ih inside']
  | collected _ _ =>
    cases held'
    rfl
  | called _ _ =>
    cases held'
    rfl
  | viewed _ _ _ _ =>
    cases held'
    rfl
  | viewedInside _ _ _ =>
    cases held'
    rfl
  | sorted _ _ _ =>
    cases held'
    rfl
  | sortedInside _ _ _ =>
    cases held'
    rfl

theorem Held.iff_eq {v : Holding} {e : Passed} {h : Holding} (held : Held v e h) (h' : Holding) :
    Held v e h' ↔ h' = h := by
  constructor
  · exact held.unique
  · rintro rfl
    exact held

/-- Neither an expression nor any expression in it is an option of an option. -/
def Flat (v : Holding) (e : Passed) : Prop :=
  ∀ part ∈ e.parts, ∃ h, Held v part h ∧ h.options ≤ 1

/-- Nothing that follows the rules around a value that is at most an option is an option of an
option. -/
theorem Held.flat {v : Holding} (hv : v.options ≤ 1) {e : Passed} {h : Holding}
    (held : Held v e h) : h.options ≤ 1 ∧ Flat v e := by
  -- The parts of an expression are itself and the parts of what it is written around.
  have hcons {e : Passed} {h : Holding} {others : List Passed} (held : Held v e h)
      (hle : h.options ≤ 1) (hothers : ∀ part ∈ others, ∃ h', Held v part h' ∧ h'.options ≤ 1) :
      ∀ part ∈ e :: others, ∃ h', Held v part h' ∧ h'.options ≤ 1 := by
    intro part hpart
    rcases List.mem_cons.1 hpart with rfl | hpart
    · exact ⟨h, held, hle⟩
    · exact hothers part hpart
  induction held with
  | value => exact ⟨hv, hcons .value hv (fun _ hmem => absurd hmem List.not_mem_nil)⟩
  | cloned inside ih => exact ⟨ih.1, hcons (.cloned inside) ih.1 ih.2⟩
  | @wrapped e h inside present ih =>
    have hle : (Holding.optional h).options ≤ 1 := by
      change h.options + 1 ≤ 1
      omega
    exact ⟨hle, hcons (.wrapped inside present) hle ih.2⟩
  | referred inside ih => exact ⟨ih.1, hcons (.referred inside) ih.1 ih.2⟩
  | collected inside ih => exact ⟨ih.1, hcons (.collected inside) ih.1 ih.2⟩
  | @called f e argument ih =>
    have hle : f.output.holding.options ≤ 1 := TypeRef.options_holding_le_one _
    exact ⟨hle, hcons (.called argument) hle ih.2⟩
  | viewed view inside present ih =>
    exact ⟨by decide, hcons (.viewed view inside present) (by decide) ih.2⟩
  | viewedInside inside option ih =>
    exact ⟨by decide, hcons (.viewedInside inside option) (by decide) ih.2⟩
  | sorted inside present ih => exact ⟨by decide, hcons (.sorted inside present) (by decide) ih.2⟩
  | sortedInside inside option ih =>
    exact ⟨by decide, hcons (.sortedInside inside option) (by decide) ih.2⟩

/-- What an encoder is called with, where `value` is a reference to the value of a field. -/
def toEncoder (call : EncodeCall) : Passed :=
  match call.byRef, call.wrapSome with
  | true, false => .value
  | false, false => .cloned .value
  | true, true => .referred (.wrapped (.cloned .value))
  | false, true => .wrapped (.cloned .value)

/-- What a decoder is called with, where `value` is the stored value. -/
def toDecoder (call : DecodeCall) : Passed :=
  let argument := if call.collectSet then .collected .value else .value
  let argument := if call.optional then .wrapped argument else argument
  if call.byRef then .referred argument else argument

/-- What is written to the store for a value of a kind. -/
def toStore (kind : Primitive) (nullable : Bool) : Passed :=
  match kind, nullable with
  | .textSet, false => .wrapped (.sorted .value)
  | .textSet, true => .sortedInside .value
  | .byteSequence, false => .wrapped (.viewed "as_slice" .value)
  | .text, false => .wrapped (.viewed "as_str" .value)
  | .byteSequence, true | .text, true => .viewedInside .value
  | _, _ => .value

/-- A value is wrapped where an option is expected, unless it is one already. -/
theorem exists_held_wrappedWhen {a b : Bool} (hflows : a = true → b = true) {v h : Holding}
    {e : Passed} (held : Held v e h) (hoptions : h.options = (Holding.ofNullable a).options) :
    ∃ h', Held v (if b && !a then .wrapped e else e) h' ∧
      h'.options = (Holding.ofNullable b).options ∧
      (h = .ofNullable a → h' = .ofNullable b) := by
  cases a with
  | true =>
    rw [hflows rfl]
    exact ⟨h, held, hoptions, id⟩
  | false =>
    cases b with
    | false => exact ⟨h, held, hoptions, id⟩
    | true =>
      refine ⟨.optional h, .wrapped held hoptions, ?_, ?_⟩
      · rw [Holding.options, hoptions]
        rfl
      · rintro rfl
        rfl

theorem held_wrappedWhen {a b : Bool} (hflows : a = true → b = true) {v : Holding} {e : Passed}
    (held : Held v e (.ofNullable a)) :
    Held v (if b && !a then .wrapped e else e) (.ofNullable b) := by
  obtain ⟨h, hheld, -, hcontent⟩ := exists_held_wrappedWhen hflows held rfl
  rw [← hcontent rfl]
  exact hheld

/-- An encoder is given the value of a field just as it declares its parameter, unless it takes only
values that are there and the field may be missing. -/
theorem held_toEncoder {type receiver : TypeRef} (howned : type.byRef = false)
    (hflows : type.nullable = true → receiver.nullable = true) (path : NamePath) :
    Held (.borrowed type.holding)
      (toEncoder ⟨path, receiver.byRef, receiver.nullable && !type.nullable⟩) receiver.holding := by
  rw [TypeRef.holding_of_owned howned]
  have hcloned : Held (.borrowed type.content) (.cloned .value) type.content := .cloned .value
  have hcontent : Held (.borrowed type.content)
      (if receiver.nullable && !type.nullable then .wrapped (.cloned .value) else .cloned .value)
      receiver.content := held_wrappedWhen hflows hcloned
  generalize (receiver.nullable && !type.nullable) = wraps at hcontent ⊢
  cases hbyRef : receiver.byRef with
  | false =>
    rw [TypeRef.holding_of_owned hbyRef]
    cases wraps with
    | false => exact hcontent
    | true => exact hcontent
  | true =>
    rw [TypeRef.holding_of_borrowed hbyRef]
    cases wraps with
    | true => exact .referred hcontent
    -- No copy is made here: what would be copied is behind a reference already.
    | false =>
      cases hcontent with
      | cloned inside => exact inside

/-- A decoder is given a stored value just as it declares its parameter. -/
theorem held_toDecoder (receiver : TypeRef) (path : NamePath) (collectSet : Bool) :
    Held .itself (toDecoder ⟨path, receiver.byRef, receiver.nullable, collectSet⟩)
      receiver.holding := by
  have hvalue : Held .itself (if collectSet then .collected .value else .value)
      (.ofNullable false) := by
    cases collectSet with
    | false => exact .value
    | true => exact .collected .value
  unfold toDecoder
  dsimp only
  generalize (if collectSet then Passed.collected .value else .value) = argument at hvalue ⊢
  have hcontent : Held .itself (if receiver.nullable then .wrapped argument else argument)
      receiver.content := by
    have hwrapped := held_wrappedWhen (a := false) (b := receiver.nullable) nofun hvalue
    rw [Bool.not_false, Bool.and_true] at hwrapped
    exact hwrapped
  cases hbyRef : receiver.byRef with
  | false =>
    rw [TypeRef.holding_of_owned hbyRef]
    exact hcontent
  | true =>
    rw [TypeRef.holding_of_borrowed hbyRef]
    exact .referred hcontent

/-- What a decoder gives is wrapped for a type just when it needs to be. -/
theorem exists_held_product {type output : TypeRef} (howned : type.byRef = false)
    (hflows : output.nullable = true → type.nullable = true) {v : Holding} {e : Passed}
    (held : Held v e output.holding) :
    ∃ h, Held v (if type.nullable && !output.nullable then .wrapped e else e) h ∧
      h.options = type.holding.options ∧ (output.byRef = false → h = type.holding) := by
  obtain ⟨h, hheld, hoptions, hcontent⟩ :=
    exists_held_wrappedWhen hflows held (TypeRef.options_holding output)
  rw [TypeRef.holding_of_owned howned]
  refine ⟨h, hheld, hoptions, fun hbyRef => ?_⟩
  exact hcontent (TypeRef.holding_of_owned hbyRef)

theorem held_wrapped_view_iff {e : Passed} {v h : Holding}
    (hview : (∃ name ∈ ["as_slice", "as_str"], e = .viewed name .value) ∨ e = .sorted .value) :
    Held v (.wrapped e) h ↔ v.target = .itself ∧ h = .optional (.borrowed .itself) := by
  constructor
  · intro held
    cases held with
    | wrapped inside _ =>
      rcases hview with ⟨name, -, rfl⟩ | rfl
      · cases inside with
        | viewed _ inside present =>
          cases inside
          exact ⟨present, rfl⟩
      · cases inside with
        | sorted inside present =>
          cases inside
          exact ⟨present, rfl⟩
  · rintro ⟨hpresent, rfl⟩
    rcases hview with ⟨name, hname, rfl⟩ | rfl
    · exact .wrapped (.viewed hname .value hpresent) rfl
    · exact .wrapped (.sorted .value hpresent) rfl

theorem held_viewInside_iff {e : Passed} {v h : Holding}
    (hview : e = .viewedInside .value ∨ e = .sortedInside .value) :
    Held v e h ↔ v.target = .optional .itself ∧ h = .optional (.borrowed .itself) := by
  constructor
  · intro held
    rcases hview with rfl | rfl
    · cases held with
      | viewedInside inside option =>
        cases inside
        exact ⟨option, rfl⟩
    · cases held with
      | sortedInside inside option =>
        cases inside
        exact ⟨option, rfl⟩
  · rintro ⟨hoption, rfl⟩
    rcases hview with rfl | rfl
    · exact .viewedInside .value hoption
    · exact .sortedInside .value hoption

/-- What is written to the store fits it just for values that are optional or not as it says. -/
theorem held_toStore_iff {kind : Primitive} {nullable : Bool}
    (hstorable : nullable = true → kind.isExistenceChecked = true) (v : Holding) :
    (∃ h, Held v (toStore kind nullable) h ∧ h.target = slot kind) ↔
      v.target = .ofNullable nullable := by
  have hviews {e : Passed} {content : Holding}
      (hiff : ∀ h, Held v e h ↔ v.target = content ∧ h = .optional (.borrowed .itself)) :
      (∃ h, Held v e h ∧ h.target = .optional (.borrowed .itself)) ↔ v.target = content := by
    simp only [hiff]
    constructor
    · rintro ⟨h, ⟨hcontent, -⟩, -⟩
      exact hcontent
    · intro hcontent
      exact ⟨_, ⟨hcontent, rfl⟩, rfl⟩
  -- A number or a truth value is written as it is, and never optional.
  have hvalue : (∃ h, Held v .value h ∧ h.target = .itself) ↔ v.target = .itself := by
    constructor
    · rintro ⟨h, held, htarget⟩
      cases held
      exact htarget
    · intro htarget
      exact ⟨v, .value, htarget⟩
  cases nullable with
  | false =>
    cases kind with
    | byteSequence => exact hviews fun h => held_wrapped_view_iff (.inl ⟨_, by decide, rfl⟩)
    | text => exact hviews fun h => held_wrapped_view_iff (.inl ⟨_, by decide, rfl⟩)
    | textSet => exact hviews fun h => held_wrapped_view_iff (.inr rfl)
    | _ => exact hvalue
  | true =>
    cases kind with
    | byteSequence => exact hviews fun h => held_viewInside_iff (.inl rfl)
    | text => exact hviews fun h => held_viewInside_iff (.inl rfl)
    | textSet => exact hviews fun h => held_viewInside_iff (.inr rfl)
    | _ => cases hstorable rfl

end Passed

end TypedPreferences.Emission
