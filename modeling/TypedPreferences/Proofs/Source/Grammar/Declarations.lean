import TypedPreferences.Proofs.Source.Grammar.Statements
import TypedPreferences.Source.Grammar.Declaration

/-! Items are read soundly: what they declare has names. -/

namespace TypedPreferences.Source

open Grammar Reader

set_option synthInstance.maxSize 1000000

/-! What is known of the parts of an item. -/

section Parts

instance checkedSignature : Checked Signature := ⟨fun sig => IsName sig.name⟩

instance checkedMember : Checked Member := ⟨Member.Named⟩

instance checkedMemberRead : Checked MemberRead := ⟨fun m => m.member.Named⟩

instance checkedKind : Checked ItemKind := ⟨ItemKind.Named⟩

instance checkedItemRead : Checked ItemRead := ⟨fun x => x.kind.Named⟩

variable {name : String} {generics : Generics}

instance known_signature {parameters : List Parameter} {output : Option Ty} [h : Known name] :
    Known (⟨name, generics, parameters, output⟩ : Signature) :=
  ⟨h.holds⟩

instance known_functionMember {sight : Visibility} {sig : Signature} [h : Known sig] :
    Known (Member.function sight sig) :=
  ⟨h.holds⟩

instance known_constantMember {value : List Token} : Known (Member.constant value) := ⟨trivial⟩

instance known_otherMember : Known Member.other := ⟨trivial⟩

instance known_memberRead {m : Member} {asItStands : Bool} [h : Known m] :
    Known (⟨m, asItStands⟩ : MemberRead) :=
  ⟨h.holds⟩

instance known_member {m : MemberRead} [h : Known m] : Known m.member := ⟨h.holds⟩

instance known_record {fields : Fields} [h : Known name] :
    Known (ItemKind.record name generics fields) :=
  ⟨h.holds⟩

instance known_enumeration {variants : List Variant} [h : Known name] :
    Known (ItemKind.enumeration name generics variants) :=
  ⟨h.holds⟩

instance known_overlay [h : Known name] : Known (ItemKind.overlay name generics) := ⟨h.holds⟩

instance known_implementation {ofTrait : Bool} {ty : Ty} {members : List Member} [h : Known ty]
    [h' : Known members] :
    Known (ItemKind.implementation ⟨generics, ofTrait, ty, members⟩) :=
  ⟨⟨h.holds, h'.holds⟩⟩

instance known_module [h : Known name] : Known (ItemKind.submodule name none) := ⟨h.holds⟩

instance known_moduleOf {content : List Item} [h : Known name] [h' : Known content] :
    Known (ItemKind.submodule name (some content)) :=
  ⟨⟨h.holds, allNamed_iff.2 h'.holds⟩⟩

instance known_function {sight : Visibility} {sig : Signature} [h : Known sig] :
    Known (ItemKind.function sight sig) :=
  ⟨h.holds⟩

instance known_otherKind : Known ItemKind.other := ⟨trivial⟩

instance known_itemRead {kind : ItemKind} {inner : List Attribute} {asItStands : Bool}
    [h : Known kind] : Known (⟨kind, inner, asItStands⟩ : ItemRead) :=
  ⟨h.holds⟩

end Parts

instance sound_visibility : Sound visibility := by
  unfold visibility
  refine Sound.bind inferInstance fun _ _ => ?_
  split
  · infer_instance
  · refine Sound.bind sound_rest fun ts _ => ?_
    split <;> infer_instance

section

variable (r : Rules) [r.Sound]

instance sound_fieldsBy {α : Type} [Checked α] (p : Reader α) [Sound p] : Sound (fieldsBy p) := by
  unfold fieldsBy
  infer_instance

instance sound_namedFieldBy (nested : Reader Unit) [Sound nested] :
    Sound (namedFieldBy r nested) := by
  unfold namedFieldBy
  infer_instance

instance sound_namedFieldFrom (fuel : Nat) : Sound (namedFieldFrom fuel r) := by
  induction fuel with
  | zero =>
    unfold namedFieldFrom
    infer_instance
  | succ fuel ih =>
    unfold namedFieldFrom
    infer_instance

instance sound_namedFields : Sound (namedFields r) := by
  unfold namedFields
  infer_instance

instance sound_tupleFields : Sound (tupleFields r) := by
  unfold tupleFields
  infer_instance

instance sound_recordBody (g : Generics) : Sound (recordBody r g) := by
  unfold recordBody
  infer_instance

instance sound_record : Sound (record r) := by
  unfold record
  infer_instance

instance sound_variant : Sound (variant r) := by
  unfold variant
  infer_instance

instance sound_enumeration : Sound (enumeration r) := by
  unfold enumeration
  infer_instance

instance sound_overlay : Sound (overlay r) := by
  unfold overlay
  infer_instance

instance sound_receiver : Sound (receiver r) := by
  unfold receiver
  infer_instance

instance sound_parameter : Sound (parameter r) := by
  have hunderscore : Known [Token.ident "_", .punct ':' false] :=
    ⟨.ident ⟨['_'], 1, by decide, rfl⟩ (.mark (by decide) (by decide) .nil)⟩
  unfold parameter
  infer_instance

instance sound_functionWords (foreign : Bool) : Sound (functionWords foreign) := by
  unfold functionWords
  infer_instance

instance sound_signature (foreign : Bool) : Sound (signature r foreign) := by
  unfold signature
  infer_instance

instance sound_atSignature : Sound atSignature := by
  unfold atSignature
  infer_instance

instance sound_body : Sound (body r) := by
  unfold body
  infer_instance

instance sound_constantName : Sound constantName := by
  unfold constantName
  infer_instance

instance sound_constantRest : Sound (constantRest r) := by
  unfold constantRest
  infer_instance

instance sound_typeRest (early late : Bool) : Sound (typeRest r early late) := by
  unfold typeRest
  infer_instance

instance sound_ruleItem (named : Bool) : Sound (ruleItem named) := by
  unfold ruleItem
  infer_instance

instance sound_traitMember : Sound (traitMember r) := by
  unfold traitMember
  infer_instance

instance sound_traitBody : Sound (traitBody r) := by
  unfold traitBody
  infer_instance

instance sound_traitItem : Sound (traitItem r) := by
  unfold traitItem
  infer_instance

instance sound_implMember : Sound (implMember r) := by
  have hconstant : ∀ c : ConstantRead, Sound (match c.plain? with
      | some value => (pure { member := .constant value } : Reader MemberRead)
      | none => pure { asItStands := true }) := by
    intro c
    split <;> infer_instance
  unfold implMember
  infer_instance

instance sound_implementation (hasVisibility : Bool) : Sound (implementation r hasVisibility) := by
  unfold implementation
  infer_instance

instance sound_submodule : Sound (submodule r) := by
  unfold submodule
  infer_instance

instance sound_importsBody (rooted : Bool) : Sound (importsBody r rooted) := by
  unfold importsBody
  infer_instance

instance sound_importItem : Sound (importItem r) := by
  unfold importItem
  infer_instance

instance sound_staticItem : Sound (staticItem r) := by
  unfold staticItem
  infer_instance

instance sound_foreignStatic : Sound (foreignStatic r) := by
  unfold foreignStatic
  infer_instance

instance sound_foreignMember : Sound (foreignMember r) := by
  unfold foreignMember
  refine Sound.bind inferInstance fun _ _ => Sound.bind inferInstance fun sight _ => ?_
  refine Sound.bind inferInstance fun ts _ => Sound.bind inferInstance fun words _ => ?_
  split <;> infer_instance

instance sound_foreignLibrary : Sound foreignLibrary := by
  unfold foreignLibrary
  infer_instance

instance sound_foreignBlock : Sound (foreignBlock r) := by
  unfold foreignBlock
  infer_instance

instance sound_ruleDefinition : Sound ruleDefinition := by
  unfold ruleDefinition
  infer_instance

instance sound_function (sight : Visibility) : Sound (function r sight) := by
  unfold function
  infer_instance

instance sound_itemRest : Sound (itemRest r) := by
  unfold itemRest
  infer_instance

instance sound_itemBody : Sound (itemBody r) := by
  unfold itemBody
  refine Sound.bind inferInstance fun ((_, read), _) hread => ?_
  have hkind : read.kind.Named := hread.1.2
  exact ⟨.pure hkind⟩

end

end TypedPreferences.Source
