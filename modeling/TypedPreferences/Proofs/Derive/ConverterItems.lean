import TypedPreferences.Derive.Expand
import TypedPreferences.Proofs.Scan.Found

/-! The attribute that marks sources of converters and the scan that looks for them each decide what
a source is. Every module that the attribute accepts is found, and every implementation without
generic parameters on a path; other implementations are accepted and not found. -/

namespace TypedPreferences

open Source

namespace Derive

/-- The attribute accepts the item that some tokens are. -/
def AcceptsSource (ts : List Token) : Prop :=
  ∃ out, typeConverters [] ts = .ok out

theorem acceptsSource_iff {ts : List Token} {i : Item} (h : itemOf? ts = some i) :
    AcceptsSource ts ↔ (∃ name content, i.kind = .submodule name (some content)) ∨
      ∃ block, i.kind = .implementation block ∧ block.ofTrait = false := by
  have haccepts : AcceptsSource ts ↔ isConverterItem i = true := by
    unfold AcceptsSource typeConverters
    rw [h]
    cases hitem : isConverterItem i <;> simp [hitem]
  rw [haccepts, isConverterItem]
  cases hkind : i.kind with
  | submodule name content => cases content <;> simp
  | _ => simp

end Derive

namespace Scan

variable {place : Place} {text : String} {s s' : ScanState}

/-- One attribute that has no arguments marks a source of converters. -/
def MarkedPlainly (attributes : List Attribute) : Prop :=
  ∃ a ∈ attributes, a.path.name = "type_converters" ∧
    (a.body = .word ∨ ∃ delimiter, a.body = .list delimiter [])

/-- What a scan asks of an implementation apart from its mark and that it is of no trait: it has no
generic parameters and is on a path. -/
def OnPath (block : Implementation) : Prop :=
  block.generics.params = [] ∧ ∃ owner, typeName? block.selfType = some owner

theorem isSource_iff {i : Item} : i.IsSource ↔ Annotated i.attributes ∧
    ((∃ name content, i.kind = .submodule name (some content)) ∨
      ∃ block, i.kind = .implementation block ∧ block.ofTrait = false) ∧
    ∀ block, i.kind = .implementation block → OnPath block := by
  unfold Item.IsSource OnPath
  refine and_congr_right fun _ => ?_
  cases i.kind <;> simp

/-- Of the items that the attribute marks without arguments, a scan finds those that the attribute
accepts, except implementations that have generic parameters or are not on a path. -/
theorem found_iff_accepted (h : (source place text).run.run s = (.ok (), s')) :
    ∃ content marked sources, itemsOf? text = some content ∧
      marked.Nodup ∧ List.Forall₂ (Supplies place) marked sources ∧
      s'.findings.converters = s.findings.converters ++ sources ∧
      ∀ v passed ts, StandsIn content v → MarkedPlainly v.item.attributes →
        itemOf? ts = some passed → passed.kind = v.item.kind →
        (v ∈ marked ↔ Derive.AcceptsSource ts ∧
          ∀ block, v.item.kind = .implementation block → OnPath block) := by
  obtain ⟨content, found, hcontent, hfound, hfinds⟩ := finds_of_source_ok h
  obtain ⟨marked, hlists, hsupplies⟩ := hfinds.converters.lists
  refine ⟨content, marked, found.converters, hcontent, hlists.nodup, hsupplies,
    congrArg Findings.converters hfound, ?_⟩
  intro v passed ts hv hplain hitem hkind
  have hannotated : Annotated v.item.attributes :=
    hplain.imp fun a ha => ⟨ha.1, ha.2.1⟩
  rw [hlists.mem_iff, isSource_iff, Derive.acceptsSource_iff hitem, hkind]
  simp only [hv, hannotated, true_and]

def markedModule : String :=
  "#[type_converters] mod hours { }"

/-- Items that are one empty module of a name, with a mark without arguments. -/
def isMarkedModule (name : String) : List Item → Bool
  | [.mk [⟨_, path, .word⟩] (.submodule name' (some [])) _] =>
    path.name == "type_converters" && name' == name
  | _ => false

theorem of_isMarkedModule {name : String} {content : List Item}
    (h : isMarkedModule name content = true) :
    ∃ i, content = [i] ∧ MarkedPlainly i.attributes ∧ i.kind = .submodule name (some []) := by
  unfold isMarkedModule at h
  split at h
  · rw [Bool.and_eq_true, beq_iff_eq, beq_iff_eq] at h
    obtain ⟨hpath, rfl⟩ := h
    exact ⟨_, rfl, ⟨_, List.mem_singleton.2 rfl, hpath, .inl rfl⟩, rfl⟩
  · cases h

/-- A module that the attribute accepts is found. -/
theorem found_iff_accepted_module :
    ∃ v marked sources, v ∈ marked ∧ v.item.kind = .submodule "hours" (some []) ∧
      Derive.AcceptsSource [.ident "mod", .ident "hours", .group .brace []] ∧
      List.Forall₂ (Supplies ⟨"lib", ["app"]⟩) marked sources := by
  have hfaults : textFaults ⟨"lib", ["app"]⟩ markedModule = [] := by
    apply textFaults_of_items
    unfold markedModule
    rw [itemsOf?_ofList]
    decide +kernel
  have hmodule : (itemsOf? markedModule).any (isMarkedModule "hours") = true := by
    unfold markedModule
    rw [itemsOf?_ofList]
    decide +kernel
  obtain ⟨content, marked, sources, hcontent, -, hsupplies, -, hiff⟩ :=
    found_iff_accepted (source_ok hfaults {})
  rw [hcontent, Option.any_some] at hmodule
  obtain ⟨i, rfl, hmarked, hkind⟩ := of_isMarkedModule hmodule
  have hpassed : ∃ spelling, itemOf? [.ident "mod", .ident "hours", .group .brace []] =
      some (.mk [] (.submodule "hours" (some [])) spelling) := ⟨_, rfl⟩
  obtain ⟨spelling, hpassed⟩ := hpassed
  -- The attribute is given the module without the mark that the scan looks for.
  have haccepts : Derive.AcceptsSource [.ident "mod", .ident "hours", .group .brace []] :=
    (Derive.acceptsSource_iff hpassed).2 (.inl ⟨_, _, rfl⟩)
  refine ⟨⟨[0], [], i⟩, marked, sources, ?_, hkind, haccepts, hsupplies⟩
  refine (hiff _ _ _ (.here rfl) hmarked hpassed hkind.symm).2 ⟨haccepts, fun block hblock => ?_⟩
  cases hkind.symm.trans hblock

/-- An implementation for every type of elements. -/
def genericBlock : String :=
  "impl<T> Days<T> { pub fn to_days(date: Date) -> i64 { 0 } }"

def markedGenericBlock : String :=
  "pub struct Days<T>(T); #[type_converters] " ++ genericBlock

/-- The attribute accepts an implementation with generic parameters, and a scan of it ends well
without any source of converters. -/
theorem accepted_and_not_found :
    (∃ ts, tokens? genericBlock = some ts ∧ Derive.AcceptsSource ts) ∧
      ((Scan.text markedGenericBlock "app").run.run {}).1 = .ok () ∧
      ((Scan.text markedGenericBlock "app").run.run {}).2.findings.converters = [] := by
  refine ⟨?_, ?_, ?_⟩
  · have haccepts : (tokens? genericBlock).any
        (fun ts => (Derive.typeConverters [] ts).toOption.isSome) = true := by
      -- The text is taken as its characters before anything is evaluated.
      unfold genericBlock
      rw [tokens?_ofList]
      decide +kernel
    obtain ⟨ts, hts, hout⟩ := (Option.any_eq_true _ _).1 haccepts
    refine ⟨ts, hts, ?_⟩
    cases htokens : Derive.typeConverters [] ts with
    | ok out => exact ⟨out, htokens⟩
    | error fault =>
      rw [htokens] at hout
      cases hout
  · have hfaults : textFaults ⟨memoryPath, modulePath "app"⟩ markedGenericBlock = [] := by
      apply textFaults_of_items
      unfold markedGenericBlock genericBlock
      rw [← String.ofList_append, itemsOf?_ofList]
      decide +kernel
    rw [Scan.text, source_ok hfaults]
  · have hlength : (foundIn ⟨memoryPath, modulePath "app"⟩ markedGenericBlock).converters.length =
        0 := by
      apply foundIn_of_items (f := fun found => found.converters.length)
      unfold markedGenericBlock genericBlock
      rw [← String.ofList_append, itemsOf?_ofList]
      decide +kernel
    rw [foundIn] at hlength
    rw [Scan.text]
    exact List.length_eq_zero_iff.1 hlength

end Scan

end TypedPreferences
