import TypedPreferences.Proofs.Source.Reading
import TypedPreferences.Source.Grammar.Attribute

/-! Paths, generic arguments and attributes are read soundly, by rules that are sound. A path is
written as it is spelled. -/

namespace TypedPreferences.Source

open Grammar Reader

set_option synthInstance.maxSize 10000

instance checkedTypeRead : Checked TypeRead :=
  ⟨fun x => x.ty.Named ∧ ∀ ts ∈ x.bound, IsPhrase ts⟩

instance known_ty {x : TypeRead} [h : Known x] : Known x.ty := ⟨h.holds.1⟩

/-- What is known of the reading of a phrase. -/
def Phrase.Yields : {α : Type} → Phrase α → α → Prop
  | _, .type _, x => Checked.holds x
  | _, .item, i => Checked.holds i
  | _, _, _ => True

/-- Rules that read all phrases soundly. -/
class Rules.Sound (r : Rules) : Prop where
  reads {α : Type} (phrase : Phrase α) : Reads (r α phrase) fun a _ _ => phrase.Yields a

section Rules

variable (r : Rules) [h : r.Sound]

instance sound_typeRead (plus : Bool) : Sound (r.typeRead plus) := ⟨h.reads (.type plus)⟩

instance sound_type (plus : Bool) : Sound (r.type plus) := by
  unfold Rules.type
  infer_instance

instance sound_expr (structs : Bool) : Sound (r.expr structs) := ⟨h.reads (.expr structs)⟩

instance sound_operand (structs : Bool) : Sound (r.operand structs) := ⟨h.reads (.operand structs)⟩

instance sound_operation (structs : Bool) (left : ExprForm) (least : Nat) :
    Sound (r.operation structs left least) :=
  ⟨h.reads (.operation structs left least)⟩

instance sound_standing : Sound r.standing := ⟨h.reads .standing⟩

instance sound_conditional : Sound r.conditional := ⟨h.reads .conditional⟩

instance sound_pattern : Sound r.pattern := ⟨h.reads .pattern⟩

instance sound_block (attributes : Bool) : Sound (r.block attributes) :=
  ⟨h.reads (.block attributes)⟩

instance sound_imports (rooted : Bool) : Sound (r.imports rooted) := ⟨h.reads (.imports rooted)⟩

instance sound_item : Sound r.item := ⟨h.reads .item⟩

end Rules

/-! Generic arguments. -/

def Arg.Proper (a : Arg) : Prop :=
  AllProper [a]

theorem allProper_iff {args : List Arg} : AllProper args ↔ ∀ a ∈ args, a.Proper := by
  induction args with
  | nil => exact ⟨fun _ => nofun, fun _ => trivial⟩
  | cons a rest ih =>
    rw [List.forall_mem_cons, ← ih]
    cases a <;> simp only [Arg.Proper, AllProper, and_true]

instance checkedArg : Checked Arg := ⟨Arg.Proper⟩

instance known_typeArg {ty : Ty} [h : Known ty] : Known (Arg.type ty) :=
  ⟨⟨h.holds.1, trivial⟩⟩

instance known_lifetimeArg {name : String} [h : Known name] : Known (Arg.lifetime name) :=
  ⟨⟨h.holds, trivial⟩⟩

instance known_otherArg {ts : List Token} [h : Known ts] : Known (Arg.other ts) :=
  ⟨⟨h.holds, trivial⟩⟩

instance known_elimArg {found : Option Ty} {ts : List Token} [h : Known found] [Known ts] :
    Known (found.elim (Arg.other ts) .type) := by
  cases found with
  | none => exact known_otherArg
  | some ty =>
    have : Known ty := ⟨h.holds ty rfl⟩
    exact known_typeArg

instance known_angled {entries : List (Bool × List Token × Bool)} [h : Known entries] :
    Known (Token.angled entries) :=
  ⟨isPhrase_angled fun e he => (h.holds e he).2.1⟩

instance isOperator_less : IsOperator "<" := ⟨by decide, by decide⟩

instance isOperator_greater : IsOperator ">" := ⟨by decide, by decide⟩

instance isOperator_equals : IsOperator "=" := ⟨by decide, by decide⟩

instance isOperator_colon : IsOperator ":" := ⟨by decide, by decide⟩

instance isOperator_colons : IsOperator "::" := ⟨by decide, by decide⟩

instance isOperator_plus : IsOperator "+" := ⟨by decide, by decide⟩

section

variable (r : Rules) [r.Sound] (bound : Reader Bool) [Sound bound]

instance sound_constant : Sound (constant r) := by
  unfold constant
  infer_instance

instance sound_constraintBounds : Sound (constraintBounds bound) := by
  unfold constraintBounds
  infer_instance

instance sound_argument : Sound (argument r bound) := by
  unfold argument
  dsimp only
  infer_instance

instance sound_angledArgs : Sound (angledArgs r bound) := by
  unfold angledArgs
  dsimp only
  refine Sound.bind inferInstance fun _ _ => ?_
  refine Sound.bind inferInstance fun entries hentries => ?_
  have hargs : Known (entries.map (·.1)) := ⟨fun a ha => by
    obtain ⟨e, he, rfl⟩ := List.mem_map.1 ha
    exact (hentries e he).1⟩
  refine Sound.bind inferInstance fun _ _ => ?_
  refine Sound.bind ⟨?_⟩ fun _ _ => inferInstance
  refine (reads_write (isPhrase_angled fun x hx => ?_)).mono fun _ _ _ _ => trivial
  obtain ⟨e, he, rfl⟩ := List.mem_map.1 hx
  exact (hentries e he).2.1

end

/-! Segments. -/

instance checkedSegment : Checked SegmentRead :=
  ⟨fun s => IsName s.name ∧ Checked.holds s.args ∧ IsPhrase s.spelling⟩

instance known_segmentName {s : SegmentRead} [h : Known s] : Known s.name := ⟨h.holds.1⟩

namespace Grammar.SegmentRead

def tokens (s : SegmentRead) : List Token :=
  .ident s.name :: s.spelling

end Grammar.SegmentRead

section

variable (r : Rules) [r.Sound] (bound : Reader Bool) [Sound bound] (inExpr : Bool)

/-- A segment is written as it is spelled. -/
theorem reads_segment : Reads (segment r bound inExpr) fun s _ new =>
    Checked.holds s ∧ new = s.tokens := by
  refine reads_rest.bind fun ts taken new _ ⟨_, htaken, hnew⟩ => ?_
  subst htaken hnew
  split
  · refine reads_anyWord.bind fun id taken new _ ⟨hname, _, hnew⟩ => .pure ?_
    subst hnew
    exact ⟨⟨hname, nofun, .nil⟩, rfl⟩
  · dsimp only
    refine reads_anyWord.bind_ite reads_name fun id taken new _ ⟨hname, _, hnew⟩ => ?_
    subst hnew
    refine reads_rest.bind fun ts taken new _ ⟨_, htaken, hnew⟩ => ?_
    subst htaken hnew
    split
    · refine (reads_noting Sound.reads).bind fun x taken new hphrase ⟨hspelled, hx⟩ => .pure ?_
      obtain ⟨⟨args, trailing⟩, spelled⟩ := x
      rw [← hspelled] at hphrase ⊢
      refine ⟨⟨hname, ?_, hphrase⟩, by simp [SegmentRead.tokens]⟩
      rintro _ ⟨⟩
      exact ⟨trivial, hx.1, trivial⟩
    · exact .pure ⟨⟨hname, nofun, .nil⟩, rfl⟩

instance sound_segment : Sound (segment r bound inExpr) :=
  ⟨(reads_segment r bound inExpr).mono fun _ _ _ h => h.1⟩

/-- More segments are written as they are spelled, each after a double colon. -/
theorem reads_segments : Reads (segments r bound inExpr) fun l _ new =>
    Checked.holds l ∧ new = l.flatMap fun s => Token.colons ++ s.tokens := by
  -- What is repeated: one more segment, or none, which ends the path.
  have hstep : Reads (do
      let ts ← rest
      if atMark "::" ts && !atGroup .paren (tail (tail ts)) then
        mark "::"
        return some (← segment r bound inExpr)
      else
        return none) fun found _ new => Checked.holds found ∧
          new = found.elim [] fun s => Token.colons ++ s.tokens := by
    refine reads_rest.bind fun ts taken new _ ⟨_, htaken, hnew⟩ => ?_
    subst htaken hnew
    split
    · refine (reads_mark "::").bind fun _ taken new _ ⟨hcolons, _⟩ => ?_
      refine (reads_segment r bound inExpr).bind fun s taken new _ ⟨hs, hnew⟩ => .pure ⟨?_, ?_⟩
      · rintro _ ⟨⟩
        exact hs
      · rw [hcolons, hnew]
        simp [Token.colons]
    · exact .pure ⟨nofun, rfl⟩
  refine reads_repeated hstep ?_ ?_
  · rintro taken new ⟨-, rfl⟩
    exact ⟨nofun, rfl⟩
  · rintro s l taken new new' ⟨hs, rfl⟩ ⟨hl, rfl⟩
    exact ⟨List.forall_mem_cons.2 ⟨hs s rfl, hl⟩, rfl⟩

end

/-! Paths. -/

instance checkedPath : Checked PathRead :=
  ⟨fun p => Checked.holds p.initial ∧ Checked.holds p.last⟩

theorem qualifier_proper {p : PathRead} (h : Checked.holds p) : p.qualifier.Proper := by
  intro s hs
  obtain ⟨t, ht, rfl⟩ := List.mem_map.1 hs
  obtain ⟨hname, -, hspelling⟩ := h.1 t ht
  exact ⟨hname, hspelling⟩

theorem tokens_named (p : PathRead) : p.named.tokens = (if p.leading then Token.colons else []) ++
    (p.initial.flatMap fun s => s.tokens ++ Token.colons) ++ p.last.tokens := by
  simp only [NamePath.tokens, PathRead.named, PathRead.qualifier, Qualifier.spelling,
    List.flatMap_map, SegmentRead.tokens]
  rfl

/-- Segments with double colons between them: one follows each but the last. -/
theorem tokens_segments (first : SegmentRead) (more : List SegmentRead) :
    first.tokens ++ more.flatMap (fun s => Token.colons ++ s.tokens) =
      (first :: more).dropLast.flatMap (fun s => s.tokens ++ Token.colons) ++
        (more.getLast?.getD first).tokens := by
  induction more generalizing first with
  | nil => simp
  | cons s rest ih =>
    rw [List.flatMap_cons, List.append_assoc, ih s]
    simp [List.getLast?_cons]

/-- The type that a path stands for is as it is read. -/
theorem ty_named {p : PathRead} (h : Checked.holds p) : p.ty.Named := by
  obtain ⟨hname, hargs, -⟩ := h.2
  unfold PathRead.ty
  split
  · exact ⟨⟨qualifier_proper h, hname⟩, nofun⟩
  · rename_i heq
    exact ⟨⟨qualifier_proper h, hname, allProper_iff.2 (hargs _ heq).2.1⟩, nofun⟩

section

variable (r : Rules) [r.Sound] (bound : Reader Bool) [Sound bound] (inExpr : Bool)

/-- A path is written as it is spelled. -/
theorem reads_path : Reads (path r bound inExpr) fun p _ new =>
    Checked.holds p ∧ new = p.named.tokens := by
  unfold path
  refine (reads_mark? "::").bind fun leading taken new _ hnew => ?_
  refine (reads_segment r bound inExpr).bind fun first taken₁ new₁ _ ⟨hfirst, hnew₁⟩ => ?_
  refine (reads_segments r bound inExpr).bind fun more taken₂ new₂ _ ⟨hmore, hnew₂⟩ => .pure ?_
  rw [List.getLast?_cons, Option.getD_some]
  have hall : Checked.holds (first :: more) := List.forall_mem_cons.2 ⟨hfirst, hmore⟩
  refine ⟨⟨fun s hs => hall s (List.dropLast_subset _ hs), ?_⟩, ?_⟩
  · exact hall _ (List.mem_of_getLast? List.getLast?_cons)
  · rw [tokens_named, hnew, hnew₁, hnew₂, List.append_nil, tokens_segments, List.append_assoc]
    rfl

instance sound_path : Sound (path r bound inExpr) :=
  ⟨(reads_path r bound inExpr).mono fun _ _ _ h => h.1⟩

/-- A path through a type in angle marks is no name. -/
theorem reads_qualifiedPath : Reads (qualifiedPath r bound inExpr) fun found _ new =>
    Checked.holds found ∧ (found.isLeft → Unnamed new) := by
  unfold qualifiedPath
  refine (reads_looks _).bind fun angled taken new _ ⟨htaken, hnew⟩ => ?_
  subst htaken hnew
  split
  · exact reads_of_marked fun _ _ _ hfound _ hnew => ⟨hfound, fun _ => hnew⟩
  · exact (reads_path r bound inExpr).bind fun p taken new _ hp => .pure ⟨hp.1, fun h => by cases h⟩

instance sound_qualifiedPath : Sound (qualifiedPath r bound inExpr) :=
  ⟨(reads_qualifiedPath r bound inExpr).mono fun _ _ _ h => h.1⟩

end

instance sound_modPath : Sound modPath := by
  unfold modPath
  infer_instance

/-! Attributes. -/

instance isOperator_hash : IsOperator "#" := ⟨by decide, by decide⟩

instance isOperator_bang : IsOperator "!" := ⟨by decide, by decide⟩

section

variable (r : Rules) [r.Sound] (inner : Bool)

instance sound_attributeBody : Sound (attributeBody r) := by
  unfold attributeBody
  refine Sound.bind sound_rest fun ts _ => ?_
  split <;> infer_instance

instance sound_oneAttribute : Sound (oneAttribute r inner) := by
  unfold oneAttribute
  infer_instance

instance sound_outerAttributes : Sound (outerAttributes r) := by
  unfold outerAttributes
  infer_instance

instance sound_innerAttributes : Sound (innerAttributes r) := by
  unfold innerAttributes
  infer_instance

end

end TypedPreferences.Source
