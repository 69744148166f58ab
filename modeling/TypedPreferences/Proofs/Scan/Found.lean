import Mathlib.Data.List.Forall2
import TypedPreferences.Proofs.Derive.Agreement
import TypedPreferences.Proofs.Scan.Additions
import TypedPreferences.Proofs.Scan.Faults
import TypedPreferences.Proofs.Scan.Standing
import TypedPreferences.Proofs.Source.Parsed

/-! What a scan that succeeds finds: all items of each kind that stand in the source, in order, each
in the module in which it stands. -/

namespace TypedPreferences

open Source

/-- An item asks for a derive: one of its `derive` attributes lists a path that ends in the name. -/
def Derives (attributes : List Attribute) (name : String) : Prop :=
  ∃ a ∈ attributes, a.path.isIdent "derive" = true ∧ ∃ delimiter args paths,
    a.body = .list delimiter args ∧
    parse? (fun r => Reader.commaSeparated (readPath r)) args = some paths ∧
    ∃ p ∈ paths, p.name = name

/-- An attribute marks a source of converters when its path ends in this name. -/
def Annotated (attributes : List Attribute) : Prop :=
  ∃ a ∈ attributes, a.path.name = "type_converters"

namespace Source.Item

def DeclaresType (i : Item) : Prop :=
  ∃ name generics, (∃ fields, i.kind = .record name generics fields) ∨
    ∃ variants, i.kind = .enumeration name generics variants

def IsPreferences (i : Item) : Prop :=
  (∃ name generics fields, i.kind = .record name generics fields) ∧
    Derives i.attributes "Preferences"

def IsOrdinal (name : String) (i : Item) : Prop :=
  (∃ generics variants, i.kind = .enumeration name generics variants) ∧
    Derives i.attributes "PrefEnum"

def IsStructured (name : String) (i : Item) : Prop :=
  ((∃ generics fields, i.kind = .record name generics fields) ∨
    ∃ generics variants, i.kind = .enumeration name generics variants) ∧
  Derives i.attributes "Marshal"

/-- A source of converters: a module with its content, or an implementation that is of no trait, has
no generic parameters and is on a path; either is annotated. -/
def IsSource (i : Item) : Prop :=
  Annotated i.attributes ∧
    ((∃ name content, i.kind = .submodule name (some content)) ∨
      ∃ block, i.kind = .implementation block ∧ block.ofTrait = false ∧
        block.generics.params = [] ∧ ∃ owner, Scan.typeName? block.selfType = some owner)

end Source.Item

theorem isConverterSource_iff {attributes : List Attribute} :
    Scan.isConverterSource attributes = true ↔ Annotated attributes := by
  simp [Scan.isConverterSource, Annotated]

namespace Scan

variable {s s' : ScanState} {place : Place}

theorem isSource_implementation {attributes : List Attribute} {block : Implementation}
    {spelling : List Token} : (Item.mk attributes (.implementation block) spelling).IsSource ↔
      (isConverterSource attributes && !block.ofTrait && block.generics.params.isEmpty) = true ∧
        ∃ owner, typeName? block.selfType = some owner := by
  simp [Item.IsSource, Item.kind, Item.attributes, isConverterSource_iff, and_assoc]

theorem isSource_submodule {attributes : List Attribute} {name : String} {content : List Item}
    {spelling : List Token} :
    (Item.mk attributes (.submodule name (some content)) spelling).IsSource ↔
      isConverterSource attributes = true := by
  simp [Item.IsSource, Item.kind, Item.attributes, isConverterSource_iff]

def Place.inside (place : Place) (modules : List String) : Place :=
  { place with module := place.module ++ modules }

theorem Place.inside_nil (place : Place) : place.inside [] = place := by
  simp [inside]

theorem Place.inside_inside (place : Place) (modules more : List String) :
    (place.inside modules).inside more = place.inside (modules ++ more) := by
  simp [inside, List.append_assoc]

/-- The functions among those of a source that are converters. -/
def convertersAt (place : Place) (owner : String) (tail : String → List String)
    (functions : List Signature) : List ConverterFn :=
  functions.filterMap fun sig =>
    (callPath? place (tail sig.name)).bind fun path => (converter? owner path sig).map (·.1)

/-- The declaration that a structure is where it stands. -/
structure Declares (place : Place) (v : Standing) (d : Declaration) : Prop where
  module : d.module = place.module ++ v.modules
  read : ∃ generics fields, v.item.kind = .record d.name generics fields ∧
    ∀ s, ((declaration (place.inside v.modules) v.item.attributes d.name generics fields).run.run
      s).1 = .ok d

/-- The source of converters that an item is where it stands: the functions of a module are called
by the path of the module, those of an implementation by that of the module around it and the name
of the type. -/
inductive Supplies (place : Place) : Standing → ConverterSource → Prop where
  | submodule {address : List Nat} {modules : List String} {attributes : List Attribute}
    {name : String} {content : List Item} {spelling : List Token} :
    Supplies place ⟨address, modules, .mk attributes (.submodule name (some content)) spelling⟩
      ⟨name, convertersAt (place.inside (modules ++ [name])) name (fun f => [f])
        (content.filterMap publicFunction?)⟩
  | block {address : List Nat} {modules : List String} {attributes : List Attribute}
    {block : Implementation} {spelling : List Token} {owner : String} :
    typeName? block.selfType = some owner →
    Supplies place ⟨address, modules, .mk attributes (.implementation block) spelling⟩
      ⟨owner, convertersAt (place.inside modules) owner (fun f => [owner, f])
        (block.members.filterMap publicMember?)⟩

/-- What comes of standings that have a property: one result for each, in order. -/
def Yields {β : Type} (P : Item → Prop) (R : Standing → β → Prop) (vs : List Standing)
    (results : List β) : Prop :=
  ∃ picked, picked.Sublist vs ∧ (∀ v, v ∈ picked ↔ v ∈ vs ∧ P v.item) ∧
    List.Forall₂ R picked results

section Yields

variable {β : Type} {P : Item → Prop} {R R' : Standing → β → Prop} {vs ws : List Standing}
  {v : Standing} {results more : List β}

theorem yields_nil : Yields P R [] [] :=
  ⟨[], .slnil, by simp, .nil⟩

theorem yields_none (h : ¬ P v.item) : Yields P R [v] [] :=
  ⟨[], List.nil_sublist _, by simp_all, .nil⟩

theorem yields_one {b : β} (h : P v.item) (hb : R v b) : Yields P R [v] [b] :=
  ⟨[v], .refl _, by simp_all, .cons hb .nil⟩

theorem Yields.append (h : Yields P R vs results) (h' : Yields P R ws more) :
    Yields P R (vs ++ ws) (results ++ more) := by
  obtain ⟨picked, hsub, hmem, hresults⟩ := h
  obtain ⟨picked', hsub', hmem', hmore⟩ := h'
  refine ⟨picked ++ picked', hsub.append hsub', fun v => ?_, List.rel_append hresults hmore⟩
  rw [List.mem_append, List.mem_append, hmem, hmem', or_and_right]

theorem Yields.under {n : Nat} {name : String} (h : Yields P R' vs results)
    (hR : ∀ v b, R' v b → R (v.under n name) b) :
    Yields P R (vs.map (·.under n name)) results := by
  obtain ⟨picked, hsub, hmem, hresults⟩ := h
  refine ⟨picked.map (·.under n name), hsub.map _, fun v => ?_, ?_⟩
  · simp only [List.mem_map, hmem]
    constructor
    · rintro ⟨w, ⟨hw, hP⟩, rfl⟩
      exact ⟨⟨w, hw, rfl⟩, hP⟩
    · rintro ⟨⟨w, hw, rfl⟩, hP⟩
      exact ⟨w, ⟨hw, hP⟩, rfl⟩
  · exact List.forall₂_map_left_iff.2 (hresults.imp hR)

theorem Yields.lists {content : List Item} (h : Yields P R (standings 0 content) results) :
    ∃ listed, Lists content P listed ∧ List.Forall₂ R listed results := by
  obtain ⟨picked, hsub, hmem, hresults⟩ := h
  have hall := lists_standings content
  refine ⟨picked, ⟨hall.inOrder.sublist hsub, fun v => ?_⟩, hresults⟩
  rw [hmem, hall.mem_iff, and_true]

end Yields

/-- What is found in the standings of a source. -/
structure Finds (place : Place) (vs : List Standing) (found : Findings) : Prop where
  declarations : Yields Item.IsPreferences (Declares place) vs found.declarations
  enums : ∀ name, name ∈ found.enums.texts ↔ ∃ v ∈ vs, v.item.IsOrdinal name
  structured : ∀ name, name ∈ found.structured.texts ↔ ∃ v ∈ vs, v.item.IsStructured name
  converters : Yields Item.IsSource (Supplies place) vs found.converters

theorem Finds.nil : Finds place [] {} where
  declarations := yields_nil
  enums := by simp
  structured := by simp
  converters := yields_nil

theorem Finds.add {vs ws : List Standing} {found more : Findings} (h : Finds place vs found)
    (h' : Finds place ws more) : Finds place (vs ++ ws) (found.add more) where
  declarations := h.declarations.append h'.declarations
  enums name := by
    rw [Findings.add, TextSet.mem_texts_union, h.enums, h'.enums]
    simp [or_and_right, exists_or]
  structured name := by
    rw [Findings.add, TextSet.mem_texts_union, h.structured, h'.structured]
    simp [or_and_right, exists_or]
  converters := h.converters.append h'.converters

theorem Declares.under {v : Standing} {d : Declaration} {name : String}
    (h : Declares (place.inside [name]) v d) (n : Nat) : Declares place (v.under n name) d := by
  obtain ⟨hmodule, hread⟩ := h
  rw [Place.inside_inside] at hread
  refine ⟨?_, hread⟩
  rw [hmodule, Place.inside, List.append_assoc]
  rfl

theorem Supplies.under {v : Standing} {source : ConverterSource} {name : String}
    (h : Supplies (place.inside [name]) v source) (n : Nat) :
    Supplies place (v.under n name) source := by
  cases h with
  | submodule =>
    rw [Place.inside_inside]
    exact .submodule
  | block howner =>
    rw [Place.inside_inside]
    exact .block howner

theorem Finds.under {vs : List Standing} {found : Findings} {name : String}
    (h : Finds (place.inside [name]) vs found) (n : Nat) :
    Finds place (vs.map (·.under n name)) found where
  declarations := h.declarations.under fun _ _ hd => hd.under n
  enums name := by
    rw [h.enums]
    simp [Standing.under]
  structured name := by
    rw [h.structured]
    simp [Standing.under]
  converters := h.converters.under fun _ _ hs => hs.under n

/-- A scan that succeeds finds what stands there, and adds it to what was found before. -/
def Scanned (w : Scan Unit) (place : Place) (vs : List Standing) : Prop :=
  ∀ s s', w.run.run s = (.ok (), s') →
    ∃ found, s'.findings = s.findings.add found ∧ Finds place vs found

/-! A scan that succeeds is taken apart into its steps. -/

section Steps

variable {α β : Type}

theorem of_bind_ok {w : Scan α} {f : α → Scan β} {b : β}
    (h : (w >>= f).run.run s = (.ok b, s')) :
    ∃ a t, w.run.run s = (.ok a, t) ∧ (f a).run.run t = (.ok b, s') := by
  rw [ExceptT.run_bind, StateT.run_bind] at h
  rcases hrun : w.run.run s with ⟨fault | a, t⟩
  · rw [hrun] at h
    cases h
  · rw [hrun] at h
    exact ⟨a, t, rfl, h⟩

/-- A scan that only has an outcome: it finds and reports nothing. -/
def Quiet (w : Scan α) : Prop :=
  ∃ outcome, ∀ s, w.run.run s = (outcome, s)

theorem quiet_pure (a : α) : Quiet (pure a) :=
  ⟨.ok a, fun _ => rfl⟩

theorem quiet_throw (fault : Fault) : Quiet (throw fault : Scan α) :=
  ⟨.error fault, fun _ => rfl⟩

theorem Quiet.bind {w : Scan α} {f : α → Scan β} (hw : Quiet w) (hf : ∀ a, Quiet (f a)) :
    Quiet (w >>= f) := by
  obtain ⟨outcome, hrun⟩ := hw
  cases outcome with
  | error fault =>
    refine ⟨.error fault, fun s => ?_⟩
    rw [ExceptT.run_bind, StateT.run_bind, hrun]
    rfl
  | ok a =>
    obtain ⟨next, hnext⟩ := hf a
    refine ⟨next, fun s => ?_⟩
    rw [ExceptT.run_bind, StateT.run_bind, hrun]
    exact hnext s

theorem Quiet.throwIf {rest : PUnit → Scan α} (condition : Bool) (fault : Fault)
    (h : Quiet (rest ⟨⟩)) :
    Quiet (if condition = true then throw fault >>= rest else rest ⟨⟩) := by
  cases condition with
  | false => exact h
  | true => exact (quiet_throw fault).bind fun _ => h

theorem quiet_mapM {f : α → Scan β} (h : ∀ a, Quiet (f a)) (as : List α) : Quiet (as.mapM f) := by
  induction as with
  | nil =>
    rw [List.mapM_nil]
    exact quiet_pure _
  | cons a rest ih =>
    rw [List.mapM_cons]
    exact (h a).bind fun _ => ih.bind fun _ => quiet_pure _

/-- What a scan goes on with after a step that only has an outcome. -/
theorem Quiet.of_bind_ok {w : Scan α} {f : α → Scan β} {b : β} (hw : Quiet w)
    (h : (w >>= f).run.run s = (.ok b, s')) :
    ∃ a, (∀ t, w.run.run t = (.ok a, t)) ∧ (f a).run.run s = (.ok b, s') := by
  obtain ⟨a, t, hrun, hrest⟩ := Scan.of_bind_ok h
  obtain ⟨outcome, hout⟩ := hw
  rw [hout] at hrun
  cases hrun
  exact ⟨a, hout, hrest⟩

theorem quiet_optionsAt (outcome : Except (Refusal String) α) : Quiet (optionsAt place outcome) := by
  cases outcome with
  | error refusal => exact quiet_throw _
  | ok a => exact quiet_pure a

theorem quiet_declaration (attributes : List Attribute) (name : String) (generics : Generics)
    (fields : Fields) : Quiet (declaration place attributes name generics fields) := by
  unfold declaration
  refine Quiet.throwIf _ _ ?_
  cases fields with
  | named fields =>
    have hfield : ∀ f, Quiet (field place f) := fun _ =>
      (quiet_optionsAt _).bind fun _ => quiet_pure _
    exact (quiet_optionsAt _).bind fun _ => (quiet_mapM hfield _).bind fun _ => quiet_pure _
  | tuple => exact quiet_throw _
  | unit => exact quiet_throw _

end Steps

theorem mem_of_mapM {α β : Type} {f : α → Option β} {as : List α} {bs : List β} {b : β}
    (h : as.mapM f = some bs) : b ∈ bs ↔ ∃ a ∈ as, f a = some b := by
  induction as generalizing bs with
  | nil =>
    cases h
    simp
  | cons a rest ih =>
    rw [List.mapM_cons] at h
    obtain ⟨first, hfirst, hrest⟩ := Option.bind_eq_some_iff.1 h
    obtain ⟨more, hmore, heq⟩ := Option.bind_eq_some_iff.1 hrest
    cases heq
    rw [List.mem_cons, ih hmore]
    simp [hfirst, eq_comm]

/-- The paths that a `derive` attribute lists. -/
def listed? (a : Attribute) : Option (List NamePath) :=
  match a.body with
  | .list _ args => parse? (fun r => Reader.commaSeparated (readPath r)) args
  | _ => none

theorem listed?_eq_some {a : Attribute} {paths : List NamePath} :
    listed? a = some paths ↔ ∃ delimiter args, a.body = .list delimiter args ∧
      parse? (fun r => Reader.commaSeparated (readPath r)) args = some paths := by
  unfold listed?
  cases a.body <;> simp

/-- The names that the derives of an item list are those that the item asks for. -/
theorem mem_derives {attributes : List Attribute} {names : List String} {name : String}
    (h : derives? attributes = some names) : name ∈ names ↔ Derives attributes name := by
  obtain ⟨lists, hlists, heq⟩ := Option.bind_eq_some_iff.1 h
  cases heq
  have hlist : ∀ paths, paths ∈ lists ↔
      ∃ a ∈ attributes.filter (·.path.isIdent "derive"), listed? a = some paths :=
    fun paths => mem_of_mapM hlists
  simp only [List.mem_map, List.mem_flatten, hlist, listed?_eq_some, List.mem_filter]
  constructor
  · rintro ⟨p, ⟨paths, ⟨a, ⟨ha, hderive⟩, delimiter, args, hbody, hparse⟩, hp⟩, hname⟩
    exact ⟨a, ha, hderive, delimiter, args, paths, hbody, hparse, p, hp, hname⟩
  · rintro ⟨a, ha, hderive, delimiter, args, paths, hbody, hparse, p, hp, hname⟩
    exact ⟨p, ⟨paths, ⟨a, ⟨ha, hderive⟩, delimiter, args, hbody, hparse⟩, hp⟩, hname⟩

/-- A scan that looks at the derives of an item goes on with what the item asks for. -/
theorem of_derives_ok {α : Type} {attributes : List Attribute} {f : List String → Scan α} {a : α}
    (h : (derives place attributes >>= f).run.run s = (.ok a, s')) :
    ∃ names, (∀ trait, trait ∈ names ↔ Derives attributes trait) ∧
      (f names).run.run s = (.ok a, s') := by
  unfold derives at h
  cases hnames : derives? attributes with
  | none =>
    rw [hnames] at h
    cases h
  | some names =>
    rw [hnames] at h
    exact ⟨names, fun trait => mem_derives hnames, h⟩

theorem reports_run {α : Type} (events : α → Event) (found : List α) (s : ScanState) :
    ∃ reported, (found.forM fun f => report (events f)).run.run s =
      (.ok (), { s with events := reported }) := by
  induction found generalizing s with
  | nil => exact ⟨s.events, rfl⟩
  | cons f rest ih => exact ih { s with events := s.events.push (events f) }

theorem converters_run (place : Place) (owner : String) (tail : String → List String)
    (functions : List Signature) (s : ScanState) :
    ∃ events, (converters place owner tail functions).run.run s =
      (.ok ⟨owner, convertersAt place owner tail functions⟩, { s with events := events }) := by
  let found := functions.filterMap fun sig => do
    converter? owner (← callPath? place (tail sig.name)) sig
  obtain ⟨events, hreports⟩ := reports_run (·.2) found s
  have hfound : found.map (·.1) = convertersAt place owner tail functions := by
    rw [convertersAt, List.map_filterMap]
    congr 1
    funext sig
    cases callPath? place (tail sig.name) <;> rfl
  refine ⟨events, ?_⟩
  rw [← hfound]
  exact run_bind_ok hreports

theorem addConverters_run {owner : String} {tail : String → List String}
    {functions : List Signature}
    (h : (converters place owner tail functions >>= addConverters).run.run s = (.ok (), s')) :
    s'.findings =
      s.findings.add { converters := [⟨owner, convertersAt place owner tail functions⟩] } := by
  obtain ⟨events, hrun⟩ := converters_run place owner tail functions s
  rw [run_bind_ok hrun] at h
  cases h
  simp [Findings.add, TextSet.union_empty]

/-! What is found in one item. -/

/-- The names of at most one item. -/
def nameWhen (condition : Bool) (name : String) : TextSet :=
  if condition = true then SortedMap.empty.insert name () else SortedMap.empty

theorem mem_nameWhen {condition : Bool} {name key : String} :
    key ∈ (nameWhen condition name).texts ↔ key = name ∧ condition = true := by
  cases condition <;> simp [nameWhen]

section Noting

variable {α : Type} {rest : PUnit → Scan α}

/-- What is noted on a condition is added before the rest. -/
theorem run_noteThen {f : Findings → Findings} (more : Bool → Findings)
    (hnone : more false = {}) (hmore : ∀ g, f g = g.add (more true)) (condition : Bool) :
    (if condition = true then note f >>= rest else rest ⟨⟩).run.run s =
      (rest ⟨⟩).run.run { s with findings := s.findings.add (more condition) } := by
  cases condition with
  | false =>
    rw [hnone, Findings.add_empty]
    rfl
  | true =>
    rw [← hmore]
    rfl

theorem run_noteEnum (condition : Bool) (name : String) :
    (if condition = true then
        (note fun f => { f with enums := f.enums.insert name () }) >>= rest
      else rest ⟨⟩).run.run s =
    (rest ⟨⟩).run.run
      { s with findings := s.findings.add { enums := nameWhen condition name } } := by
  apply run_noteThen (fun condition => { enums := nameWhen condition name }) rfl
  intro g
  simp [Findings.add, TextSet.union_empty, nameWhen, TextSet.union_singleton]

theorem run_noteStructured (condition : Bool) (name : String) :
    (if condition = true then
        (note fun f => { f with structured := f.structured.insert name () }) >>= rest
      else rest ⟨⟩).run.run s =
    (rest ⟨⟩).run.run
      { s with findings := s.findings.add { structured := nameWhen condition name } } := by
  apply run_noteThen (fun condition => { structured := nameWhen condition name }) rfl
  intro g
  simp [Findings.add, TextSet.union_empty, nameWhen, TextSet.union_singleton]

end Noting

section Item

variable {attributes : List Attribute} {name : String} {generics : Generics} {address : List Nat}
  {spelling : List Token}

/-- Nothing but what asks for it is found in a structure. -/
theorem finds_record {fields : Fields} {declarations : List Declaration} {marshal : Bool}
    (hd : Yields Item.IsPreferences (Declares place)
      [⟨address, [], .mk attributes (.record name generics fields) spelling⟩] declarations)
    (hmarshal : marshal = true ↔ Derives attributes "Marshal") :
    Finds place [⟨address, [], .mk attributes (.record name generics fields) spelling⟩]
      { declarations := declarations, structured := nameWhen marshal name } where
  declarations := hd
  enums key := by simp [Item.IsOrdinal, Item.kind]
  structured key := by
    simp [mem_nameWhen, Item.IsStructured, Item.kind, Item.attributes, hmarshal, eq_comm]
  converters := yields_none (by simp [Item.IsSource, Item.kind])

theorem of_declaration_ok {fields : Fields} {d : Declaration}
    (h : (declaration place attributes name generics fields).run.run s = (.ok d, s')) :
    d.name = name ∧ d.module = place.module := by
  unfold declaration at h
  cases hgeneric : !generics.params.isEmpty with
  | true =>
    rw [hgeneric] at h
    cases h
  | false =>
    rw [hgeneric] at h
    cases fields with
    | named fields =>
      obtain ⟨id, t, -, h⟩ := of_bind_ok h
      obtain ⟨found, t', -, h⟩ := of_bind_ok h
      cases h
      exact ⟨rfl, rfl⟩
    | tuple => cases h
    | unit => cases h

theorem scanned_record (fields : Fields) :
    Scanned (record place attributes name generics fields) place
      [⟨address, [], .mk attributes (.record name generics fields) spelling⟩] := by
  intro s s' h
  obtain ⟨names, hderives, h⟩ := of_derives_ok h
  have hmarshal := List.contains_iff_mem.trans (hderives "Marshal")
  rw [run_noteStructured] at h
  -- What is asked of a structure is noted first; a declaration is read only if it is asked for.
  by_cases hpreferences : names.contains "Preferences" = true
  · rw [if_pos hpreferences] at h
    obtain ⟨d, hd, h⟩ := (quiet_declaration attributes name generics fields).of_bind_ok h
    cases h
    refine ⟨_, ?_, finds_record (yields_one (b := d) ?_ ?_) hmarshal⟩
    · simp [Findings.add, TextSet.union_empty]
    · exact ⟨⟨name, generics, fields, rfl⟩, (hderives _).1 (List.contains_iff_mem.1 hpreferences)⟩
    · obtain ⟨rfl, hmodule⟩ := of_declaration_ok (hd s)
      refine ⟨hmodule.trans (List.append_nil _).symm, generics, fields, rfl, fun t => ?_⟩
      rw [Place.inside_nil]
      exact congrArg Prod.fst (hd t)
  · rw [if_neg hpreferences] at h
    cases h
    refine ⟨_, rfl, finds_record (yields_none ?_) hmarshal⟩
    rintro ⟨-, hasked⟩
    exact hpreferences (List.contains_iff_mem.2 ((hderives _).2 hasked))

theorem scanned_enumeration (variants : List Variant) :
    Scanned (enumeration place attributes name) place
      [⟨address, [], .mk attributes (.enumeration name generics variants) spelling⟩] := by
  intro s s' h
  obtain ⟨names, hderives, h⟩ := of_derives_ok h
  rw [run_noteEnum, ← bind_pure (note _), run_noteStructured] at h
  cases h
  refine ⟨_, Findings.add_assoc _ _ _, ?_⟩
  constructor
  · exact yields_none (by simp [Item.IsPreferences, Item.kind])
  · intro key
    simp [Findings.add, TextSet.union_empty, mem_nameWhen, Item.IsOrdinal, Item.kind,
      Item.attributes, ← hderives, eq_comm]
  · intro key
    simp [Findings.add, TextSet.empty_union, mem_nameWhen, Item.IsStructured, Item.kind,
      Item.attributes, ← hderives, eq_comm]
  · exact yields_none (by simp [Item.IsSource, Item.kind])

/-- In an item that declares no type there is one source of converters at most. -/
theorem finds_converters {i : Item} {sources : List ConverterSource} (h : ¬ i.DeclaresType)
    (hsources : Yields Item.IsSource (Supplies place) [⟨address, [], i⟩] sources) :
    Finds place [⟨address, [], i⟩] { converters := sources } where
  declarations := yields_none fun ⟨⟨_, _, _, hkind⟩, _⟩ => h ⟨_, _, .inl ⟨_, hkind⟩⟩
  enums key := by
    have hnone : ¬ i.IsOrdinal key := fun ⟨⟨_, _, hkind⟩, _⟩ => h ⟨_, _, .inr ⟨_, hkind⟩⟩
    simp [hnone]
  structured key := by
    have hnone : ¬ i.IsStructured key := by
      rintro ⟨⟨_, _, hkind⟩ | ⟨_, _, hkind⟩, -⟩
      · exact h ⟨_, _, .inl ⟨_, hkind⟩⟩
      · exact h ⟨_, _, .inr ⟨_, hkind⟩⟩
    simp [hnone]
  converters := hsources

theorem scanned_none {i : Item} (h : ¬ i.DeclaresType) (hsource : ¬ i.IsSource) :
    Scanned (pure ()) place [⟨address, [], i⟩] := by
  intro s s' hrun
  cases hrun
  exact ⟨{}, s.findings.add_empty.symm, finds_converters h (yields_none hsource)⟩

theorem scanned_converters {i : Item} {inside : Place} {owner : String}
    {tail : String → List String} {functions : List Signature} (h : ¬ i.DeclaresType)
    (hsource : i.IsSource)
    (hsupplies : Supplies place ⟨address, [], i⟩
      ⟨owner, convertersAt inside owner tail functions⟩) :
    Scanned (converters inside owner tail functions >>= addConverters) place
      [⟨address, [], i⟩] :=
  fun _ _ hrun => ⟨_, addConverters_run hrun, finds_converters h (yields_one hsource hsupplies)⟩

theorem scanned_implementation (block : Implementation) :
    Scanned (implementation place attributes block) place
      [⟨address, [], .mk attributes (.implementation block) spelling⟩] := by
  have htype : ¬ (Item.mk attributes (.implementation block) spelling).DeclaresType := by
    simp [Item.DeclaresType, Item.kind]
  unfold implementation
  split
  next hmarked =>
    split
    next owner howner =>
      refine scanned_converters htype (isSource_implementation.2 ⟨hmarked, owner, howner⟩) ?_
      have hsupplies := @Supplies.block place address [] attributes block spelling owner howner
      rwa [Place.inside_nil] at hsupplies
    next hnone =>
      refine scanned_none htype fun h => ?_
      obtain ⟨-, owner, howner⟩ := isSource_implementation.1 h
      cases hnone.symm.trans howner
  next hunmarked => exact scanned_none htype fun h => hunmarked (isSource_implementation.1 h).1

end Item

theorem Scanned.seq {w w' : Scan Unit} {vs ws : List Standing} (h : Scanned w place vs)
    (h' : Scanned w' place ws) : Scanned (w >>= fun _ => w') place (vs ++ ws) := by
  intro s s' hrun
  obtain ⟨⟨⟩, t, hw, hw'⟩ := of_bind_ok hrun
  obtain ⟨found, hfound, hfinds⟩ := h _ _ hw
  obtain ⟨more, hmore, hfinds'⟩ := h' _ _ hw'
  refine ⟨found.add more, ?_, hfinds.add hfinds'⟩
  rw [hmore, hfound, Findings.add_assoc]

theorem Scanned.under {w : Scan Unit} {vs : List Standing} {name : String}
    (h : Scanned w (place.inside [name]) vs) (n : Nat) :
    Scanned w place (vs.map (·.under n name)) := by
  intro s s' hrun
  obtain ⟨found, hfound, hfinds⟩ := h _ _ hrun
  exact ⟨found, hfound, hfinds.under n⟩

theorem scanned_other {kind : ItemKind} {address : List Nat} {attributes : List Attribute}
    {spelling : List Token}
    (h : kind = .other ∨ (∃ name, kind = .submodule name none) ∨
      (∃ name generics, kind = .overlay name generics) ∨
        ∃ visibility sig, kind = .function visibility sig) :
    Scanned (pure ()) place [⟨address, [], .mk attributes kind spelling⟩] := by
  rcases h with rfl | ⟨_, rfl⟩ | ⟨_, _, rfl⟩ | ⟨_, _, rfl⟩ <;>
    exact scanned_none (by simp [Item.DeclaresType, Item.kind]) (by simp [Item.IsSource, Item.kind])

/-- A module is scanned before its content. -/
theorem scanned_submodule {n : Nat} {attributes : List Attribute} {name : String}
    {content : List Item} {spelling : List Token} {vs : List Standing}
    (h : Scanned (items (place.inside [name]) content) (place.inside [name]) vs) :
    Scanned (item place (.mk attributes (.submodule name (some content)) spelling)) place
      (⟨[n], [], .mk attributes (.submodule name (some content)) spelling⟩ ::
        vs.map (·.under n name)) := by
  have htype : ¬ (Item.mk attributes (.submodule name (some content)) spelling).DeclaresType := by
    simp [Item.DeclaresType, Item.kind]
  rw [item]
  split
  next hmarked =>
    have hitself := scanned_converters htype (isSource_submodule.2 hmarked)
      (@Supplies.submodule place [n] [] attributes name content spelling)
    have hboth := hitself.seq (h.under n)
    rw [bind_assoc] at hboth
    exact hboth
  next hunmarked =>
    have hitself : Scanned (pure ()) place
        [⟨[n], [], .mk attributes (.submodule name (some content)) spelling⟩] :=
      scanned_none htype (hunmarked ∘ isSource_submodule.1)
    exact hitself.seq (h.under n)

mutual

theorem scanned_item (place : Place) (n : Nat) :
    ∀ i : Item, Scanned (item place i) place (⟨[n], [], i⟩ :: standingsIn n i)
  | .mk _ (.record _ _ fields) _ => scanned_record fields
  | .mk _ (.enumeration _ _ variants) _ => scanned_enumeration variants
  | .mk _ (.implementation block) _ => scanned_implementation block
  | .mk _ (.submodule name (some content)) _ =>
    scanned_submodule (scanned_items (place.inside [name]) 0 content)
  | .mk _ (.submodule _ none) _ => scanned_other (by simp)
  | .mk _ (.overlay _ _) _ => scanned_other (by simp)
  | .mk _ (.function _ _) _ => scanned_other (by simp)
  | .mk _ .other _ => scanned_other (by simp)

theorem scanned_items (place : Place) (n : Nat) :
    ∀ content : List Item, Scanned (items place content) place (standings n content)
  | [] => fun s s' h => by
    cases h
    exact ⟨{}, s.findings.add_empty.symm, .nil⟩
  | i :: rest => (scanned_item place n i).seq (scanned_items place (n + 1) rest)

end

theorem finds_of_source_ok {text : String} (h : (source place text).run.run s = (.ok (), s')) :
    ∃ content found, itemsOf? text = some content ∧ s'.findings = s.findings.add found ∧
      Finds place (standings 0 content) found := by
  unfold source at h
  cases hcontent : itemsOf? text with
  | none =>
    rw [hcontent] at h
    cases h
  | some content =>
    rw [hcontent] at h
    obtain ⟨found, hfound, hfinds⟩ := scanned_items place 0 content _ _ h
    exact ⟨content, found, rfl, hfound, hfinds⟩

theorem Declares.isName {v : Standing} {d : Declaration} (h : Declares place v d)
    (hv : v.item.Named) : IsName d.name := by
  obtain ⟨-, generics, fields, hkind, -⟩ := h
  obtain ⟨address, modules, attributes, kind, spelling⟩ := v
  obtain rfl : kind = .record d.name generics fields := hkind
  exact hv

/-- A scan that succeeds finds each declaration, enumeration, structured type and source of
converters that stands in the source, at its top level or in modules in each other, and nothing
else. Declarations and sources of converters are found once each, in the order of the text, and in
the module in which they stand. -/
theorem finds_all_standing {text : String} (h : (source place text).run.run s = (.ok (), s')) :
    ∃ content, itemsOf? text = some content ∧
      (∃ structures declarations, Lists content Item.IsPreferences structures ∧
        List.Forall₂ (Declares place) structures declarations ∧
        s'.findings.declarations = s.findings.declarations ++ declarations) ∧
      (∀ name, name ∈ s'.findings.enums.texts ↔
        name ∈ s.findings.enums.texts ∨ ∃ v, StandsIn content v ∧ v.item.IsOrdinal name) ∧
      (∀ name, name ∈ s'.findings.structured.texts ↔
        name ∈ s.findings.structured.texts ∨ ∃ v, StandsIn content v ∧ v.item.IsStructured name) ∧
      ∃ marked sources, Lists content Item.IsSource marked ∧
        List.Forall₂ (Supplies place) marked sources ∧
        s'.findings.converters = s.findings.converters ++ sources := by
  obtain ⟨content, found, hcontent, hfound, hfinds⟩ := finds_of_source_ok h
  obtain ⟨structures, hstructures, hdeclares⟩ := hfinds.declarations.lists
  obtain ⟨marked, hmarked, hsupplies⟩ := hfinds.converters.lists
  have hstands : ∀ v, v ∈ standings 0 content ↔ StandsIn content v := fun v => by
    rw [(lists_standings content).mem_iff, and_true]
  rw [hfound]
  refine ⟨content, hcontent, ⟨structures, _, hstructures, hdeclares, rfl⟩, fun name => ?_,
    fun name => ?_, marked, _, hmarked, hsupplies, rfl⟩
  · simp only [Findings.add, TextSet.mem_texts_union, hfinds.enums, hstands]
  · simp only [Findings.add, TextSet.mem_texts_union, hfinds.structured, hstands]

/-- A text without faults is scanned to its end. -/
theorem source_ok {text : String} (h : textFaults place text = []) (s : ScanState) :
    (source place text).run.run s = (.ok (), ((source place text).run.run s).2) := by
  have hchecked := (checks_source place text s trivial).2
  rw [h] at hchecked
  generalize (source place text).run.run s = ran at hchecked ⊢
  obtain ⟨fault | ⟨⟩, after⟩ := ran
  · cases hchecked
  · rfl

/-! What a scan of a text comes to is what a scan of its items comes to. -/

section Items

variable {text : String}

theorem textFaults_of_items {faults : List Fault}
    (h : (itemsOf? text).map (itemsFaults place) = some faults) : textFaults place text = faults := by
  obtain ⟨content, hcontent, rfl⟩ := Option.map_eq_some_iff.1 h
  unfold textFaults
  rw [hcontent]

theorem foundIn_of_items {α : Type} {f : Findings → α} {a : α}
    (h : (itemsOf? text).map (fun content => f ((items place content).run.run {}).2.findings) =
      some a) : f (foundIn place text) = a := by
  obtain ⟨content, hcontent, rfl⟩ := Option.map_eq_some_iff.1 h
  unfold foundIn source
  rw [hcontent]

theorem declarations_foundIn {declarations : List Declaration}
    (h : ((source place text).run.run {}).2.findings.declarations =
      ({} : ScanState).findings.declarations ++ declarations) :
    (foundIn place text).declarations = declarations := by
  rw [foundIn, h]
  rfl

end Items

/-- A module of converters with a declaration in a module inside of it. -/
def nestedModules : String :=
  "#[type_converters] mod hours { mod lamp { #[derive(Preferences)] struct Lamp { } } }"

/-- The declaration in the inner module is found in that module. -/
theorem finds_all_standing_nested :
    ∃ content structures found, itemsOf? nestedModules = some content ∧
      Lists content Item.IsPreferences structures ∧
      List.Forall₂ (Declares ⟨"lib", ["app"]⟩) structures found ∧
      (foundIn ⟨"lib", ["app"]⟩ nestedModules).declarations = found ∧
      found.map (fun d => (d.name, d.module)) = [("Lamp", ["app", "hours", "lamp"])] := by
  have hfaults : textFaults ⟨"lib", ["app"]⟩ nestedModules = [] := by
    apply textFaults_of_items
    unfold nestedModules
    rw [itemsOf?_ofList]
    decide +kernel
  have hnames : (foundIn ⟨"lib", ["app"]⟩ nestedModules).declarations.map
      (fun d => (d.name, d.module)) = [("Lamp", ["app", "hours", "lamp"])] := by
    apply foundIn_of_items (f := fun found => found.declarations.map fun d => (d.name, d.module))
    unfold nestedModules
    rw [itemsOf?_ofList]
    decide +kernel
  obtain ⟨content, hcontent, ⟨structures, found, hlists, hdeclares, hadded⟩, -⟩ :=
    finds_all_standing (source_ok hfaults {})
  have hfound : (foundIn ⟨"lib", ["app"]⟩ nestedModules).declarations = found :=
    declarations_foundIn hadded
  exact ⟨content, structures, found, hcontent, hlists, hdeclares, hfound, hfound ▸ hnames⟩

end Scan

end TypedPreferences
