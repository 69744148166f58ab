import Mathlib.Data.List.Basic
import TypedPreferences.Scan.Findings

/-! What a scan adds to what was found before. It is the same whatever was found before, and so is
the outcome of the scan. -/

namespace TypedPreferences

open Source

namespace TextSet

variable {s t : TextSet} {key : String}

def union (s t : TextSet) : TextSet :=
  t.texts.foldl (fun u name => u.insert name ()) s

theorem mem_texts : key ∈ s.texts ↔ s.get? key = some () := by
  rw [texts, SortedMap.keys, SortedMap.get?, Option.map_eq_some_iff]
  constructor
  · intro h
    obtain ⟨e, he, rfl⟩ := List.mem_map.1 h
    have hfound : (s.entries.find? (·.1 == e.1)).isSome :=
      List.find?_isSome.2 ⟨e, he, beq_self_eq_true e.1⟩
    exact ⟨_, Option.eq_some_of_isSome hfound, rfl⟩
  · rintro ⟨e, he, -⟩
    have hkey : e.1 = key := by simpa using List.find?_some he
    exact List.mem_map.2 ⟨e, List.mem_of_find?_eq_some he, hkey⟩

theorem ext_texts (h : ∀ key, key ∈ s.texts ↔ key ∈ t.texts) : s = t := by
  apply SortedMap.ext_get?
  intro key
  have hkey := h key
  rw [mem_texts, mem_texts] at hkey
  exact Option.ext fun () => hkey

@[simp]
theorem mem_texts_insert {name : String} :
    key ∈ texts (s.insert name ()) ↔ key = name ∨ key ∈ s.texts := by
  rw [mem_texts, mem_texts, SortedMap.get?_insert]
  by_cases h : key = name <;> simp [h]

theorem mem_texts_foldl (names : List String) :
    key ∈ (names.foldl (fun u name => u.insert name ()) s : TextSet).texts ↔
      key ∈ s.texts ∨ key ∈ names := by
  induction names generalizing s with
  | nil => simp
  | cons name rest ih =>
    rw [List.foldl_cons, ih, mem_texts_insert, List.mem_cons, or_assoc, or_left_comm]

@[simp]
theorem mem_texts_union : key ∈ (s.union t).texts ↔ key ∈ s.texts ∨ key ∈ t.texts :=
  mem_texts_foldl t.texts

@[simp]
theorem not_mem_texts_empty : key ∉ texts SortedMap.empty :=
  List.not_mem_nil

theorem union_empty : s.union SortedMap.empty = s := rfl

theorem empty_union : union SortedMap.empty s = s := by
  apply ext_texts
  simp

theorem union_assoc {u : TextSet} : (s.union t).union u = s.union (t.union u) := by
  apply ext_texts
  simp [or_assoc]

theorem union_singleton (name : String) :
    s.union (SortedMap.empty.insert name ()) = s.insert name () := rfl

end TextSet

namespace Findings

/-- What was found and, after it, what is found further. -/
def add (f g : Findings) : Findings where
  declarations := f.declarations ++ g.declarations
  enums := f.enums.union g.enums
  structured := f.structured.union g.structured
  converters := f.converters ++ g.converters

theorem add_empty (f : Findings) : f.add {} = f := by
  simp [add, TextSet.union_empty]

theorem empty_add (f : Findings) : add {} f = f := by
  simp [add, TextSet.empty_union]

theorem add_assoc (f g k : Findings) : (f.add g).add k = f.add (g.add k) := by
  simp [add, TextSet.union_assoc]

end Findings

namespace Scan

variable {α β : Type}

/-- A scan whose outcome is the same whatever was found before, and that adds the same to it. -/
def Additive (w : Scan α) : Prop :=
  ∃ outcome found, ∀ s, (w.run.run s).1 = outcome ∧
    (w.run.run s).2.findings = s.findings.add found

theorem additive_pure (a : α) : Additive (pure a) :=
  ⟨.ok a, {}, fun s => ⟨rfl, s.findings.add_empty.symm⟩⟩

theorem additive_throw (fault : Fault) : Additive (throw fault : Scan α) :=
  ⟨.error fault, {}, fun s => ⟨rfl, s.findings.add_empty.symm⟩⟩

theorem additive_report (e : Event) : Additive (report e) :=
  ⟨.ok (), {}, fun s => ⟨rfl, s.findings.add_empty.symm⟩⟩

theorem additive_note {f : Findings → Findings} (found : Findings)
    (h : ∀ g, f g = g.add found) : Additive (note f) :=
  ⟨.ok (), found, fun s => ⟨rfl, h s.findings⟩⟩

theorem Additive.bind {w : Scan α} {f : α → Scan β} (hw : Additive w)
    (hf : ∀ a, Additive (f a)) : Additive (w >>= f) := by
  obtain ⟨outcome, found, hrun⟩ := hw
  -- A fault ends the scan, and what was found up to it stays found.
  cases outcome with
  | error fault =>
    refine ⟨.error fault, found, fun s => ?_⟩
    rw [ExceptT.run_bind, StateT.run_bind]
    obtain ⟨hout, hfound⟩ := hrun s
    generalize w.run.run s = ran at hout hfound ⊢
    obtain ⟨out, after⟩ := ran
    obtain rfl : out = .error fault := hout
    exact ⟨rfl, hfound⟩
  | ok a =>
    obtain ⟨next, more, hnext⟩ := hf a
    refine ⟨next, found.add more, fun s => ?_⟩
    rw [ExceptT.run_bind, StateT.run_bind]
    obtain ⟨hout, hfound⟩ := hrun s
    generalize w.run.run s = ran at hout hfound ⊢
    obtain ⟨out, after⟩ := ran
    obtain rfl : out = .ok a := hout
    obtain ⟨hlast, hadded⟩ := hnext after
    refine ⟨hlast, ?_⟩
    calc ((f a).run.run after).2.findings
      _ = after.findings.add more := hadded
      _ = (s.findings.add found).add more := congrArg (·.add more) hfound
      _ = s.findings.add (found.add more) := Findings.add_assoc _ _ _

theorem Additive.noteWhen {f : Findings → Findings} (condition : Bool) (h : Additive (note f)) :
    Additive (if condition = true then note f else pure ⟨⟩) := by
  cases condition with
  | false => exact additive_pure _
  | true => exact h

theorem Additive.noteThen {f : Findings → Findings} {rest : PUnit → Scan α} (condition : Bool)
    (h : Additive (note f)) (hrest : Additive (rest ⟨⟩)) :
    Additive (if condition = true then note f >>= rest else rest ⟨⟩) := by
  cases condition with
  | false => exact hrest
  | true => exact h.bind fun _ => hrest

theorem Additive.throwIf {rest : PUnit → Scan α} (condition : Bool) (fault : Fault)
    (hrest : Additive (rest ⟨⟩)) :
    Additive (if condition = true then throw fault >>= rest else rest ⟨⟩) := by
  cases condition with
  | false => exact hrest
  | true => exact (additive_throw fault).bind fun _ => hrest

theorem additive_mapM {f : α → Scan β} (h : ∀ a, Additive (f a)) (as : List α) :
    Additive (as.mapM f) := by
  induction as with
  | nil =>
    rw [List.mapM_nil]
    exact additive_pure _
  | cons a rest ih =>
    rw [List.mapM_cons]
    exact (h a).bind fun _ => ih.bind fun _ => additive_pure _

theorem additive_noteEnum (name : String) :
    Additive (note fun f => { f with enums := f.enums.insert name () }) :=
  additive_note { enums := SortedMap.empty.insert name () } fun g => by
    simp [Findings.add, TextSet.union_empty, TextSet.union_singleton]

theorem additive_noteStructured (name : String) :
    Additive (note fun f => { f with structured := f.structured.insert name () }) :=
  additive_note { structured := SortedMap.empty.insert name () } fun g => by
    simp [Findings.add, TextSet.union_empty, TextSet.union_singleton]

theorem additive_noteDeclaration (d : Declaration) :
    Additive (note fun f => { f with declarations := f.declarations ++ [d] }) :=
  additive_note { declarations := [d] } fun g => by
    simp [Findings.add, TextSet.union_empty]

theorem additive_addConverters (source : ConverterSource) : Additive (addConverters source) :=
  additive_note { converters := [source] } fun g => by
    simp [Findings.add, TextSet.union_empty]

theorem additive_optionsAt (place : Place) (outcome : Except (Refusal String) α) :
    Additive (optionsAt place outcome) := by
  cases outcome with
  | error refusal => exact additive_throw _
  | ok a => exact additive_pure a

theorem additive_field (place : Place) (f : NamedField) : Additive (field place f) :=
  (additive_optionsAt _ _).bind fun _ => additive_pure _

theorem additive_declaration (place : Place) (attributes : List Attribute) (name : String)
    (generics : Generics) (fields : Fields) :
    Additive (declaration place attributes name generics fields) := by
  unfold declaration
  refine Additive.throwIf _ _ ?_
  cases fields with
  | named fields =>
    exact (additive_optionsAt _ _).bind fun _ =>
      (additive_mapM (additive_field place) fields).bind fun _ => additive_pure _
  | tuple => exact additive_throw _
  | unit => exact additive_throw _

theorem additive_derives (place : Place) (attributes : List Attribute) :
    Additive (derives place attributes) := by
  unfold derives
  cases derives? attributes with
  | none => exact additive_throw _
  | some names => exact additive_pure names

theorem additive_record (place : Place) (attributes : List Attribute) (name : String)
    (generics : Generics) (fields : Fields) :
    Additive (record place attributes name generics fields) := by
  refine (additive_derives place attributes).bind fun derived => ?_
  refine Additive.noteThen _ (additive_noteStructured name) ?_
  split
  · exact (additive_declaration place attributes name generics fields).bind fun d =>
      (additive_report _).bind fun _ => additive_noteDeclaration d
  · exact additive_pure _

theorem additive_enumeration (place : Place) (attributes : List Attribute) (name : String) :
    Additive (enumeration place attributes name) :=
  (additive_derives place attributes).bind fun _ =>
    .noteThen _ (additive_noteEnum name) (.noteWhen _ (additive_noteStructured name))

theorem additive_converters (place : Place) (owner : String) (tail : String → List String)
    (functions : List Signature) : Additive (converters place owner tail functions) := by
  have hreports : ∀ found : List (ConverterFn × Event),
      Additive (found.forM fun f => report f.2) := by
    intro found
    induction found with
    | nil => exact additive_pure _
    | cons f rest ih => exact (additive_report f.2).bind fun _ => ih
  exact (hreports _).bind fun _ => additive_pure _

theorem additive_implementation (place : Place) (attributes : List Attribute)
    (block : Implementation) : Additive (implementation place attributes block) := by
  unfold implementation
  split
  · split
    · exact (additive_converters _ _ _ _).bind additive_addConverters
    · exact additive_pure _
  · exact additive_pure _

mutual

theorem additive_item (place : Place) : ∀ i : Item, Additive (item place i)
  | .mk attributes (.record name generics fields) _ =>
    additive_record place attributes name generics fields
  | .mk attributes (.enumeration name _ _) _ => additive_enumeration place attributes name
  | .mk attributes (.implementation block) _ => additive_implementation place attributes block
  | .mk attributes (.submodule name (some content)) _ => by
    have hcontent := additive_items { place with module := place.module ++ [name] } content
    rw [item]
    cases isConverterSource attributes with
    | false => exact hcontent
    | true =>
      exact (additive_converters _ _ _ _).bind fun source =>
        (additive_addConverters source).bind fun _ => hcontent
  | .mk _ (.submodule _ none) _ => additive_pure _
  | .mk _ (.overlay _ _) _ => additive_pure _
  | .mk _ (.function _ _) _ => additive_pure _
  | .mk _ .other _ => additive_pure _

theorem additive_items (place : Place) : ∀ content : List Item, Additive (items place content)
  | [] => additive_pure _
  | i :: rest => (additive_item place i).bind fun _ => additive_items place rest

end

theorem additive_source (place : Place) (text : String) : Additive (source place text) := by
  unfold source
  cases itemsOf? text with
  | none => exact additive_throw _
  | some content => exact additive_items place content

/-- What is found in a source. -/
def foundIn (place : Place) (text : String) : Findings :=
  ((source place text).run.run {}).2.findings

/-- A source has the same outcome after any other sources, and what is found in it is added to what
was found in them. -/
theorem source_run (place : Place) (text : String) (s : ScanState) :
    ((source place text).run.run s).1 = ((source place text).run.run {}).1 ∧
      ((source place text).run.run s).2.findings = s.findings.add (foundIn place text) := by
  obtain ⟨outcome, found, hrun⟩ := additive_source place text
  have hfound : foundIn place text = found := (hrun {}).2.trans (Findings.empty_add found)
  rw [hfound, (hrun {}).1]
  exact hrun s

end Scan

end TypedPreferences
