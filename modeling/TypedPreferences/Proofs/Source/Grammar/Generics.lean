import TypedPreferences.Proofs.Source.Grammar.Paths
import TypedPreferences.Source.Grammar.Generics

/-! Bounds, generic parameters and predicates are read soundly. A bound that is no trait, and so all
bounds that begin with a lifetime, are no name. -/

namespace TypedPreferences.Source

open Grammar Reader

set_option synthInstance.maxSize 10000

/-! Generic parameters. -/

/-- The parts of a parameter are phrases. -/
instance checkedParam : Checked GenericParam :=
  ⟨fun p => Checked.holds [p.attributes, p.lead, p.name, p.bounds, p.default]⟩

instance known_param {isLifetime comma : Bool} {attributes lead name bounds default : List Token}
    [h : Known [attributes, lead, name, bounds, default]] :
    Known (⟨isLifetime, attributes, lead, name, bounds, default, comma⟩ : GenericParam) :=
  ⟨h.holds⟩

instance known_paramComma {p : GenericParam} {comma : Bool} [h : Known p] :
    Known { p with comma } :=
  ⟨h.holds⟩

theorem declared_phrase {p : GenericParam} (h : Checked.holds p) : IsPhrase p.declared := by
  have hpart : ∀ ts ∈ [p.attributes, p.lead, p.name, p.bounds, p.default], IsPhrase ts := h
  simp only [List.mem_cons, List.not_mem_nil, or_false, forall_eq_or_imp, forall_eq] at hpart
  obtain ⟨hattributes, hlead, hname, hbounds, hdefault⟩ := hpart
  exact (((hattributes.append hlead).append hname).append hbounds).append hdefault

instance known_declared {params : List GenericParam} {predicates : List Token}
    [h : Known params] : Known (Generics.declared ⟨params, predicates⟩) where
  holds := by
    refine isPhrase_ite _ .nil (isPhrase_angled fun e he => ?_)
    obtain ⟨p, hp, rfl⟩ := List.mem_map.1 he
    exact declared_phrase (h.holds p hp)

instance isOperator_arrow : IsOperator "->" := ⟨by decide, by decide⟩

instance isOperator_question : IsOperator "?" := ⟨by decide, by decide⟩

section

variable {α : Type} [Checked α] (r : Rules) [r.Sound] (bound : Reader Bool) [Sound bound]

instance sound_bounds (stop : List Token → Bool) (bound : Reader α) [Sound bound] :
    Sound (bounds stop bound) := by
  unfold bounds
  infer_instance

instance sound_genericParam (anonymous : Bool) : Sound (genericParam r bound anonymous) := by
  unfold genericParam
  dsimp only
  infer_instance

instance sound_genericParams (anonymous : Bool) : Sound (genericParams r bound anonymous) := by
  unfold genericParams
  infer_instance

instance isKeyword_for : IsKeyword "for" := ⟨by decide⟩

/-- Parameters that something holds for are no name. -/
instance marked_binder : Marked (binder r bound) := by
  unfold binder
  have hrest : Sound (do
      require (← looks (atMark "<"))
      let params ← genericParams r bound false
      let comma : GenericParam → List Token := fun p => if p.comma then [Token.comma] else []
      write (.punct '<' false :: (params.flatMap fun p => p.declared ++ comma p) ++
        [.punct '>' false])) := by
    refine Sound.bind inferInstance fun _ _ => Sound.bind inferInstance fun _ _ => ?_
    refine Sound.bind inferInstance fun params hparams => ⟨?_⟩
    refine (reads_write ?_).mono fun _ _ _ _ => trivial
    have hopening : IsPhrase (Token.operatorOf ['<']) := isPhrase_operatorOf (by decide)
    have hclosing : IsPhrase (Token.operatorOf ['>']) := isPhrase_operatorOf (by decide)
    refine (hopening.append (isPhrase_flatMap fun p hp => ?_)).append hclosing
    exact (declared_phrase (hparams p hp)).append (isPhrase_ite _ isPhrase_comma .nil)
  exact marked_bind

instance sound_binder : Sound (binder r bound) :=
  (marked_binder r bound).sound

instance sound_functionArgs : Sound (functionArgs r) := by
  unfold functionArgs
  infer_instance

instance sound_traitPath : Sound (traitPath r bound) := by
  unfold traitPath
  constructor
  refine (reads_capture (reads_path r bound false)).bind fun x taken new _ hx => ?_
  obtain ⟨p, spelled⟩ := x
  obtain ⟨-, hspelled, hp, hpath⟩ := hx
  have hbefore : spelled.take (spelled.length - p.last.spelling.length) =
      p.named.qualifier.spelling ++ [.ident p.named.name] := by
    have htokens : spelled = p.named.qualifier.spelling ++ [.ident p.named.name] ++
        p.last.spelling := by
      rw [List.append_assoc]
      exact hpath
    rw [htokens, List.length_append, Nat.add_sub_cancel, List.take_left]
  have hleft : Known (p.named.qualifier.spelling ++ [.ident p.named.name]) :=
    ⟨(qualifier_proper hp).phrase.append hp.2.1.phrase⟩
  have hwhole : Known spelled := ⟨hspelled⟩
  dsimp only
  rw [hbefore]
  exact reads_of_sound fun _ _ _ _ => trivial

instance sound_traitBound (place : BoundPlace) : Sound (traitBound r bound place) := by
  unfold traitBound
  infer_instance

end

instance sound_captured : Sound captured := by
  unfold captured
  infer_instance

instance sound_captureList : Sound captureList := by
  unfold captureList
  infer_instance

section

variable (r : Rules) [r.Sound] (place : BoundPlace)

instance sound_boundFrom (fuel : Nat) : Sound (boundFrom fuel r place) := by
  induction fuel generalizing place with
  | zero =>
    unfold boundFrom
    infer_instance
  | succ fuel ih =>
    unfold boundFrom
    infer_instance

instance sound_bound : Sound (bound r place) := by
  unfold bound
  infer_instance

instance sound_typeBounds (plus : Bool) : Sound (typeBounds r plus place) := by
  unfold typeBounds
  infer_instance

/-- Bounds that begin with a lifetime are no name. -/
theorem readsFrom_typeBounds {c : Cursor} (plus : Bool) (hc : IsPhrase c.rest)
    (h : atLifetime c.rest = true) :
    ReadsFrom c (typeBounds r plus place) fun _ _ new => Unnamed new := by
  have hfirst : ReadsFrom c (bound r place) fun _ _ new => Unnamed new := by
    refine readsFrom_rest ?_
    rw [boundFrom]
    refine readsFrom_rest ?_
    dsimp only
    rw [if_pos h]
    exact reads_of_marked (fun _ _ _ _ _ hnew => hnew) c hc
  refine hfirst.bind fun first taken new c₁ hreading hnew => ?_
  exact reads_of_sound (fun _ _ new' _ => hnew.append_left new') c₁ hreading.rest

instance sound_predicate : Sound (predicate r) := by
  unfold predicate
  infer_instance

instance sound_predicates : Sound (predicates r) := by
  unfold predicates
  infer_instance

instance sound_generics : Sound (generics r) := by
  unfold generics
  infer_instance

instance sound_withPredicates (g : Generics) : Sound (withPredicates r g) := by
  unfold withPredicates
  infer_instance

end

end TypedPreferences.Source
