import TypedPreferences.Scan.Findings

/-! What is wrong with a source: the faults of its attributes and declarations, in the order in which
they are read. A scan fails with the first of them, whatever was found before, and it fails with
nothing else. -/

namespace TypedPreferences

open Source

section Checks

variable {σ α β : Type} {inv : σ → Prop}

/-- An outcome is checked when it is the first of some faults or, when there are none, a proper
result. -/
def Checked (faults : List Fault) (post : α → Prop) : Except Fault α → Prop
  | .error fault => faults.head? = some fault
  | .ok a => faults = [] ∧ post a

/-- What a computation checks for, in order. It fails with the first fault that there is, and
succeeds when there is none; the state keeps to an invariant either way. -/
def Checks (inv : σ → Prop) (w : ExceptT Fault (StateM σ) α) (faults : List Fault)
    (post : α → Prop) : Prop :=
  ∀ s, inv s → inv (w.run.run s).2 ∧ Checked faults post (w.run.run s).1

variable {w : ExceptT Fault (StateM σ) α} {faults : List Fault} {post : α → Prop}

theorem Checks.pure {a : α} (h : post a) :
    Checks inv (Pure.pure a : ExceptT Fault (StateM σ) α) [] post :=
  fun _ hs => ⟨hs, rfl, h⟩

theorem checks_pure (a : α) :
    Checks inv (Pure.pure a : ExceptT Fault (StateM σ) α) [] (· = a) :=
  Checks.pure rfl

theorem Checks.throw {fault : Fault} (h : faults.head? = some fault) :
    Checks inv (MonadExcept.throw fault : ExceptT Fault (StateM σ) α) faults post :=
  fun _ hs => ⟨hs, h⟩

theorem checks_throw (fault : Fault) (post : α → Prop) :
    Checks inv (MonadExcept.throw fault : ExceptT Fault (StateM σ) α) [fault] post :=
  Checks.throw rfl

theorem checks_modify {f : σ → σ} (h : ∀ s, inv s → inv (f s)) :
    Checks inv (modifyThe σ f : ExceptT Fault (StateM σ) Unit) [] fun _ => True :=
  fun s hs => ⟨h s hs, rfl, trivial⟩

/-- The faults of what comes first are found first. -/
theorem Checks.bind {f : α → ExceptT Fault (StateM σ) β} {more : List Fault} {post' : β → Prop}
    (hw : Checks inv w faults post) (hf : ∀ a, post a → Checks inv (f a) more post') :
    Checks inv (w >>= f) (faults ++ more) post' := by
  intro s hs
  obtain ⟨hinv, hout⟩ := hw s hs
  rw [ExceptT.run_bind, StateT.run_bind]
  rcases hrun : w.run.run s with ⟨fault | a, after⟩
  · rw [hrun] at hinv hout
    have hhead : (faults ++ more).head? = some fault := by
      rw [List.head?_append, show faults.head? = some fault from hout, Option.some_or]
    exact ⟨hinv, hhead⟩
  · rw [hrun] at hinv hout
    obtain ⟨rfl, ha⟩ := hout
    exact hf a ha after hinv

theorem Checks.seq {w' : ExceptT Fault (StateM σ) β} {more : List Fault} {post' : β → Prop}
    (hw : Checks inv w faults fun _ => True) (hw' : Checks inv w' more post') :
    Checks inv (w >>= fun _ => w') (faults ++ more) post' :=
  hw.bind fun _ _ => hw'

/-- What has no faults adds none to what comes after it. -/
theorem Checks.after {f : α → ExceptT Fault (StateM σ) β} {post' : β → Prop}
    (hw : Checks inv w [] post) (hf : ∀ a, post a → Checks inv (f a) faults post') :
    Checks inv (w >>= f) faults post' :=
  hw.bind hf

/-- Nothing comes after a fault. -/
theorem checks_stop {f : α → ExceptT Fault (StateM σ) β} (fault : Fault) (post' : β → Prop) :
    Checks inv (MonadExcept.throw fault >>= f) [fault] post' :=
  (checks_throw fault fun _ => False).bind fun _ hfalse => hfalse.elim

/-- A condition that is looked at before the rest. -/
theorem Checks.throwIf {rest : PUnit → ExceptT Fault (StateM σ) α} (condition : Bool)
    (fault : Fault) (h : Checks inv (rest ⟨⟩) faults post) :
    Checks inv (if condition = true then MonadExcept.throw fault >>= rest else rest ⟨⟩)
      ((if condition = true then [fault] else []) ++ faults) post := by
  cases condition with
  | false => exact h
  | true => exact (checks_throw fault fun _ => False).bind fun _ hfalse => hfalse.elim

theorem checks_mapM {f : α → ExceptT Fault (StateM σ) β} {faultsOf : α → List Fault}
    (h : ∀ a, Checks inv (f a) (faultsOf a) fun _ => True) (as : List α) :
    Checks inv (as.mapM f) (as.flatMap faultsOf) fun _ => True := by
  induction as with
  | nil =>
    rw [List.mapM_nil]
    exact Checks.pure trivial
  | cons a rest ih =>
    rw [List.mapM_cons, List.flatMap_cons]
    refine (h a).bind fun b _ => ?_
    rw [← List.append_nil (rest.flatMap faultsOf)]
    exact ih.bind fun _ _ => Checks.pure trivial

/-- A loop in which every turn has its own faults, whatever was made before it. -/
theorem checks_foldlM {f : β → α → ExceptT Fault (StateM σ) β} {faultsOf : α → List Fault}
    {made : β → α → β} (h : ∀ b a, Checks inv (f b a) (faultsOf a) (· = made b a))
    (as : List α) (b : β) :
    Checks inv (as.foldlM f b) (as.flatMap faultsOf) (· = as.foldl made b) := by
  induction as generalizing b with
  | nil =>
    rw [List.foldlM_nil]
    exact Checks.pure rfl
  | cons a rest ih =>
    rw [List.foldlM_cons, List.flatMap_cons, List.foldl_cons]
    refine (h b a).bind fun b' hb' => ?_
    subst hb'
    exact ih (made b a)

end Checks

namespace Scan

/-! Every fault of a source, in reading order. -/

def optionFaults {α : Type} (place : Place) (outcome : Except (Refusal String) α) : List Fault :=
  match outcome with
  | .ok _ => []
  | .error refusal => [refusedAt place refusal]

def fieldFaults (place : Place) (f : NamedField) : List Fault :=
  optionFaults place (Options.ofAttributes "pref" fieldOption {} f.attributes)

/-- The faults of a declaration of preferences: it has parameters, its fields have no names, or an
option of the declaration or of a field is not allowed. -/
def declarationFaults (place : Place) (attributes : List Attribute) (name : String)
    (generics : Generics) (fields : Fields) : List Fault :=
  (if !generics.params.isEmpty then [.invalidDeclaration name .generic] else []) ++
    match fields with
    | .named fields =>
      optionFaults place (Options.ofAttributes "preferences" declarationOption none attributes) ++
        fields.flatMap (fieldFaults place)
    | _ => [.invalidDeclaration name .unnamedFields]

/-- The faults of the derives of an item, and of what they ask for. -/
def derivedFaults (place : Place) (attributes : List Attribute)
    (asked : List String → List Fault) : List Fault :=
  match derives? attributes with
  | none => [.parse place.path .malformed]
  | some names => asked names

mutual

def itemFaults (place : Place) : Item → List Fault
  | .mk attributes (.record name generics fields) _ =>
    derivedFaults place attributes fun names =>
      if names.contains "Preferences" then
        declarationFaults place attributes name generics fields
      else []
  | .mk attributes (.enumeration _ _ _) _ => derivedFaults place attributes fun _ => []
  | .mk _ (.submodule name (some content)) _ =>
    itemsFaults { place with module := place.module ++ [name] } content
  | _ => []

def itemsFaults (place : Place) : List Item → List Fault
  | [] => []
  | i :: rest => itemFaults place i ++ itemsFaults place rest

end

/-- The faults of the text of a source: it has no proper form, or its items have faults. -/
def textFaults (place : Place) (text : String) : List Fault :=
  match itemsOf? text with
  | none => [.parse place.path .malformed]
  | some content => itemsFaults place content

/-! A scan checks for these faults. What was found before has no part in it. -/

abbrev anyState : ScanState → Prop := fun _ => True

theorem checks_note (f : Findings → Findings) : Checks anyState (note f) [] fun _ => True :=
  checks_modify fun _ _ => trivial

theorem checks_report (e : Event) : Checks anyState (report e) [] fun _ => True :=
  checks_modify fun _ _ => trivial

theorem checks_optionsAt {α : Type} (place : Place) (outcome : Except (Refusal String) α) :
    Checks anyState (optionsAt place outcome) (optionFaults place outcome) fun _ => True := by
  rcases outcome with refusal | a
  · exact checks_throw _ _
  · exact Checks.pure trivial

theorem checks_field (place : Place) (f : NamedField) :
    Checks anyState (field place f) (fieldFaults place f) fun _ => True := by
  rw [fieldFaults, ← List.append_nil (optionFaults _ _)]
  exact (checks_optionsAt _ _).bind fun _ _ => Checks.pure trivial

theorem checks_declaration (place : Place) (attributes : List Attribute) (name : String)
    (generics : Generics) (fields : Fields) :
    Checks anyState (declaration place attributes name generics fields)
      (declarationFaults place attributes name generics fields) fun _ => True := by
  unfold declaration declarationFaults
  refine Checks.throwIf _ _ ?_
  cases fields with
  | named fields =>
    refine Checks.bind (checks_optionsAt _ _) fun id _ => ?_
    rw [← List.append_nil (fields.flatMap _)]
    exact (checks_mapM (checks_field place) fields).bind fun _ _ => Checks.pure trivial
  | tuple => exact checks_throw _ _
  | unit => exact checks_throw _ _

theorem checks_derived {α : Type} (place : Place) (attributes : List Attribute)
    {f : List String → Scan α} {asked : List String → List Fault}
    (h : ∀ names, Checks anyState (f names) (asked names) fun _ => True) :
    Checks anyState (derives place attributes >>= f) (derivedFaults place attributes asked)
      fun _ => True := by
  unfold derives derivedFaults
  rcases derives? attributes with _ | names
  · exact checks_stop _ _
  · exact (checks_pure names).after fun _ heq => heq ▸ h names

theorem checks_noteWhen (condition : Bool) (f : Findings → Findings) :
    Checks anyState (if condition = true then note f else Pure.pure ⟨⟩) [] fun _ => True := by
  cases condition with
  | false => exact Checks.pure trivial
  | true => exact checks_note f

theorem checks_noteThen {α : Type} {faults : List Fault} {rest : PUnit → Scan α} (condition : Bool)
    (f : Findings → Findings) (h : Checks anyState (rest ⟨⟩) faults fun _ => True) :
    Checks anyState (if condition = true then note f >>= rest else rest ⟨⟩) faults
      fun _ => True := by
  cases condition with
  | false => exact h
  | true => exact (checks_note f).after fun _ _ => h

theorem checks_record (place : Place) (attributes : List Attribute) (name : String)
    (generics : Generics) (fields : Fields) :
    Checks anyState (record place attributes name generics fields)
      (derivedFaults place attributes fun names =>
        if names.contains "Preferences" then
          declarationFaults place attributes name generics fields
        else []) fun _ => True := by
  refine checks_derived place attributes fun names => checks_noteThen _ _ ?_
  cases names.contains "Preferences" with
  | false => exact Checks.pure trivial
  | true =>
    have hfound : ∀ d : Declaration, Checks anyState
        (do
          report (.foundDeclaration d.name d.fields.length)
          note fun f => { f with declarations := f.declarations ++ [d] })
        [] fun _ => True :=
      fun d => (checks_report _).after fun _ _ => checks_note _
    have h := (checks_declaration place attributes name generics fields).bind
      fun d _ => hfound d
    rwa [List.append_nil] at h

theorem checks_enumeration (place : Place) (attributes : List Attribute) (name : String) :
    Checks anyState (enumeration place attributes name)
      (derivedFaults place attributes fun _ => []) fun _ => True :=
  checks_derived place attributes fun _ => checks_noteThen _ _ (checks_noteWhen _ _)

theorem checks_converters (place : Place) (owner : String) (tail : String → List String)
    (functions : List Signature) :
    Checks anyState (converters place owner tail functions) [] fun _ => True := by
  have hreports : ∀ found : List (ConverterFn × Event),
      Checks anyState (found.forM fun f => report f.2) [] fun _ => True := by
    intro found
    induction found with
    | nil => exact Checks.pure trivial
    | cons f rest ih => exact (checks_report f.2).after fun _ _ => ih
  exact (hreports _).after fun _ _ => Checks.pure trivial

theorem checks_implementation (place : Place) (attributes : List Attribute)
    (block : Implementation) :
    Checks anyState (implementation place attributes block) [] fun _ => True := by
  unfold implementation
  split
  · split
    · exact (checks_converters _ _ _ _).after fun _ _ => checks_note _
    · exact Checks.pure trivial
  · exact Checks.pure trivial

mutual

theorem checks_item (place : Place) :
    ∀ i : Item, Checks anyState (item place i) (itemFaults place i) fun _ => True
  | .mk attributes (.record name generics fields) _ =>
    checks_record place attributes name generics fields
  | .mk attributes (.enumeration name _ _) _ => checks_enumeration place attributes name
  | .mk attributes (.implementation block) _ => checks_implementation place attributes block
  | .mk attributes (.submodule name (some content)) _ => by
    have hcontent := checks_items { place with module := place.module ++ [name] } content
    rw [item, itemFaults]
    cases isConverterSource attributes with
    | false => exact hcontent
    | true =>
      exact (checks_converters _ _ _ _).after fun _ _ => (checks_note _).after fun _ _ => hcontent
  | .mk _ (.submodule _ none) _ => Checks.pure trivial
  | .mk _ (.overlay _ _) _ => Checks.pure trivial
  | .mk _ (.function _ _) _ => Checks.pure trivial
  | .mk _ .other _ => Checks.pure trivial

theorem checks_items (place : Place) :
    ∀ content : List Item,
      Checks anyState (items place content) (itemsFaults place content) fun _ => True
  | [] => Checks.pure trivial
  | i :: rest => (checks_item place i).seq (checks_items place rest)

end

/-- A scan of a source fails with the first fault of its text, and succeeds when there is none. -/
theorem checks_source (place : Place) (text : String) :
    Checks anyState (source place text) (textFaults place text) fun _ => True := by
  unfold source textFaults
  cases itemsOf? text with
  | none => exact checks_throw _ _
  | some content => exact checks_items place content

end Scan

end TypedPreferences
