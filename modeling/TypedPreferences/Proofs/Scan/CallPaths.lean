import TypedPreferences.Proofs.Scan.Found
import TypedPreferences.Proofs.Source.NamePaths

/-! The paths by which functions are called that a scan finds as converters, also when the scan
fails later. A path names the modules around the owner of the function, the owner and the function.
-/

namespace TypedPreferences

open Source

namespace Source

/-- The names of the segments of a type that is a path. -/
def Ty.segmentNames? : Ty → Option (List String)
  | .plain q name => some (q.steps.map (·.name) ++ [name])
  | .applied q name _ _ _ => some (q.steps.map (·.name) ++ [name])
  | _ => none

theorem Ty.getLast?_segmentNames {t : Ty} {names : List String}
    (h : t.segmentNames? = some names) : Scan.typeName? t = names.getLast? := by
  cases t with
  | plain =>
    cases h
    simp [Scan.typeName?]
  | applied =>
    cases h
    simp [Scan.typeName?]
  | _ => cases h

theorem Ty.Named.isName {t : Ty} {name : String} (h : t.Named)
    (hname : Scan.typeName? t = some name) : IsName name := by
  cases t with
  | plain =>
    cases hname
    exact h.1.2
  | applied =>
    cases hname
    exact h.1.2.1
  | projection =>
    cases hname
    exact h.2 _ _ rfl
  | _ => cases hname

namespace Item

variable {i : Item}

/-- The name of the owner of functions: a module with its content, or the type of an implementation.
-/
def owner? : Item → Option String
  | .mk _ (.submodule name (some _)) _ => some name
  | .mk _ (.implementation block) _ => Scan.typeName? block.selfType
  | _ => none

/-- The owner of functions as it is written, without arguments. -/
def writtenOwner? : Item → Option (List String)
  | .mk _ (.submodule name (some _)) _ => some [name]
  | .mk _ (.implementation block) _ => block.selfType.segmentNames?
  | _ => none

/-- The functions of an owner that everybody sees. -/
def functions : Item → List Signature
  | .mk _ (.submodule _ (some content)) _ => content.filterMap Scan.publicFunction?
  | .mk _ (.implementation block) _ => block.members.filterMap Scan.publicMember?
  | _ => []

theorem owner?_eq_getLast? {names : List String} (h : i.writtenOwner? = some names) :
    i.owner? = names.getLast? := by
  unfold writtenOwner? at h
  split at h
  · cases h
    rfl
  · exact Ty.getLast?_segmentNames h
  · cases h

theorem Named.isName_owner {owner : String} (h : i.Named) (howner : i.owner? = some owner) :
    IsName owner := by
  unfold owner? at howner
  split at howner
  · cases howner
    exact h.1
  · exact h.1.isName howner
  · cases howner

theorem Named.isName_function {sig : Signature} (h : i.Named) (hsig : sig ∈ i.functions) :
    IsName sig.name := by
  unfold functions at hsig
  split at hsig
  · obtain ⟨⟨attributes, kind, spelling⟩, hmem, hfunction⟩ := List.mem_filterMap.1 hsig
    have hnamed := allNamed_iff.1 h.2 _ hmem
    unfold Scan.publicFunction? at hfunction
    split at hfunction
    next hkind =>
      cases hfunction
      cases hkind
      exact hnamed
    next => cases hfunction
  · obtain ⟨member, hmem, hfunction⟩ := List.mem_filterMap.1 hsig
    have hnamed := h.2 _ hmem
    unfold Scan.publicMember? at hfunction
    split at hfunction
    · cases hfunction
      exact hnamed
    · cases hfunction
  · cases hsig

end Item

end Source

namespace Scan

variable {place : Place} {vs ws : List Standing}

/-! A scan, even one that fails, finds only sources of converters that stand in the source. -/

/-- A scan that finds no source of converters. -/
def Spares {α : Type} (w : Scan α) : Prop :=
  ∀ s, (w.run.run s).2.findings.converters = s.findings.converters

/-- A scan that finds only sources of converters among some standings, in order. -/
def Collects (w : Scan Unit) (place : Place) (vs : List Standing) : Prop :=
  ∀ s, ∃ marked sources, marked.Sublist vs ∧ (∀ v ∈ marked, v.item.IsSource) ∧
    List.Forall₂ (Supplies place) marked sources ∧
    (w.run.run s).2.findings.converters = s.findings.converters ++ sources

theorem Quiet.spares {α : Type} {w : Scan α} (h : Quiet w) : Spares w := by
  obtain ⟨outcome, hrun⟩ := h
  intro s
  rw [hrun]

theorem spares_note {f : Findings → Findings} (h : ∀ g, (f g).converters = g.converters) :
    Spares (note f) :=
  fun s => h s.findings

theorem run_bind_cases {α β : Type} {w : Scan α} {f : α → Scan β} (s : ScanState) :
    ((w >>= f).run.run s).2 = (w.run.run s).2 ∨
      ∃ a, ((w >>= f).run.run s).2 = ((f a).run.run (w.run.run s).2).2 := by
  rw [ExceptT.run_bind, StateT.run_bind]
  obtain ⟨fault | a, t⟩ := w.run.run s
  · exact .inl rfl
  · exact .inr ⟨a, rfl⟩

theorem Spares.bind {α β : Type} {w : Scan α} {f : α → Scan β} (h : Spares w)
    (hf : ∀ a, Spares (f a)) : Spares (w >>= f) := by
  intro s
  rcases run_bind_cases (w := w) (f := f) s with hfailed | ⟨a, hran⟩
  · rw [hfailed, h]
  · rw [hran, hf, h]

theorem Spares.collects {w : Scan Unit} (h : Spares w) : Collects w place vs :=
  fun s => ⟨[], [], List.nil_sublist vs, nofun, .nil, by rw [h, List.append_nil]⟩

theorem collects_pure : Collects (pure ()) place vs :=
  (quiet_pure ()).spares.collects

theorem Collects.bind {w : Scan Unit} {f : Unit → Scan Unit} (h : Collects w place vs)
    (hf : ∀ a, Collects (f a) place ws) : Collects (w >>= f) place (vs ++ ws) := by
  intro s
  obtain ⟨marked, sources, hsub, hsource, hsupplies, hfound⟩ := h s
  rcases run_bind_cases (w := w) (f := f) s with hfailed | ⟨a, hran⟩
  -- When the first scan fails, the second adds nothing.
  · refine ⟨marked, sources, hsub.trans (List.sublist_append_left vs ws), hsource, hsupplies, ?_⟩
    rw [hfailed, hfound]
  · obtain ⟨more, sources', hsub', hsource', hsupplies', hfound'⟩ := hf a (w.run.run s).2
    refine ⟨marked ++ more, sources ++ sources', hsub.append hsub', ?_,
      List.rel_append hsupplies hsupplies', ?_⟩
    · exact List.forall_mem_append.2 ⟨hsource, hsource'⟩
    · rw [hran, hfound', hfound, List.append_assoc]

theorem Collects.under {w : Scan Unit} {name : String} (h : Collects w (place.inside [name]) vs)
    (n : Nat) : Collects w place (vs.map (·.under n name)) := by
  intro s
  obtain ⟨marked, sources, hsub, hsource, hsupplies, hfound⟩ := h s
  refine ⟨marked.map (·.under n name), sources, hsub.map _, ?_, ?_, hfound⟩
  · exact List.forall_mem_map.2 hsource
  · exact List.forall₂_map_left_iff.2 (hsupplies.imp fun _ _ hs => hs.under n)

theorem spares_noteWhen {f : Findings → Findings} {w : Scan Unit} (condition : Bool)
    (hf : ∀ g, (f g).converters = g.converters) (h : Spares w) :
    Spares (if condition = true then note f >>= fun _ => w else w) := by
  cases condition with
  | false => exact h
  | true => exact (spares_note hf).bind fun _ => h

theorem quiet_derives (attributes : List Attribute) : Quiet (derives place attributes) := by
  unfold derives
  cases derives? attributes with
  | none => exact quiet_throw _
  | some names => exact quiet_pure names

theorem spares_record (attributes : List Attribute) (name : String) (generics : Generics)
    (fields : Fields) : Spares (record place attributes name generics fields) := by
  refine (quiet_derives attributes).spares.bind fun derived => ?_
  refine spares_noteWhen _ (fun _ => rfl) ?_
  split
  · exact (quiet_declaration attributes name generics fields).spares.bind fun d =>
      Spares.bind (fun _ => rfl) fun _ => spares_note fun _ => rfl
  · exact (quiet_pure ()).spares

theorem spares_enumeration (attributes : List Attribute) (name : String) :
    Spares (enumeration place attributes name) := by
  refine (quiet_derives attributes).spares.bind fun derived => ?_
  refine spares_noteWhen _ (fun _ => rfl) ?_
  split
  · exact spares_note fun _ => rfl
  · exact (quiet_pure ()).spares

theorem collects_converters {v : Standing} {inside : Place} {owner : String}
    {tail : String → List String} {functions : List Signature}
    (h : Supplies place v ⟨owner, convertersAt inside owner tail functions⟩)
    (hsource : v.item.IsSource) :
    Collects (converters inside owner tail functions >>= addConverters) place [v] := by
  intro s
  obtain ⟨events, hrun⟩ := converters_run inside owner tail functions s
  refine ⟨[v], _, .refl _, List.forall_mem_singleton.2 hsource, .cons h .nil, ?_⟩
  rw [run_bind_ok hrun]
  rfl

theorem collects_implementation {address : List Nat} {attributes : List Attribute}
    {spelling : List Token} (block : Implementation) :
    Collects (implementation place attributes block) place
      [⟨address, [], .mk attributes (.implementation block) spelling⟩] := by
  unfold implementation
  split
  next hmarked =>
    split
    next owner howner =>
      have hsupplies := @Supplies.block place address [] attributes block spelling owner howner
      rw [Place.inside_nil] at hsupplies
      exact collects_converters hsupplies (isSource_implementation.2 ⟨hmarked, owner, howner⟩)
    next => exact collects_pure
  next => exact collects_pure

theorem collects_submodule {n : Nat} {attributes : List Attribute} {name : String}
    {content : List Item} {spelling : List Token}
    (h : Collects (items (place.inside [name]) content) (place.inside [name]) vs) :
    Collects (item place (.mk attributes (.submodule name (some content)) spelling)) place
      (⟨[n], [], .mk attributes (.submodule name (some content)) spelling⟩ ::
        vs.map (·.under n name)) := by
  rw [item]
  split
  next hmarked =>
    have hitself := collects_converters
      (@Supplies.submodule place [n] [] attributes name content spelling)
      (isSource_submodule.2 hmarked)
    have hboth := hitself.bind fun _ => h.under n
    rw [bind_assoc] at hboth
    exact hboth
  next =>
    have hitself : Collects (pure ()) place
        [⟨[n], [], .mk attributes (.submodule name (some content)) spelling⟩] :=
      collects_pure
    exact hitself.bind fun _ => h.under n

mutual

theorem collects_item (place : Place) (n : Nat) :
    ∀ i : Item, Collects (item place i) place (⟨[n], [], i⟩ :: standingsIn n i)
  | .mk _ (.record _ _ _) _ => (spares_record _ _ _ _).collects
  | .mk _ (.enumeration _ _ _) _ => (spares_enumeration _ _).collects
  | .mk _ (.implementation block) _ => collects_implementation block
  | .mk _ (.submodule name (some content)) _ =>
    collects_submodule (collects_items (place.inside [name]) 0 content)
  | .mk _ (.submodule _ none) _ => collects_pure
  | .mk _ (.overlay _ _) _ => collects_pure
  | .mk _ (.function _ _) _ => collects_pure
  | .mk _ .other _ => collects_pure

theorem collects_items (place : Place) (n : Nat) :
    ∀ content : List Item, Collects (items place content) place (standings n content)
  | [] => collects_pure
  | i :: rest => (collects_item place n i).bind fun _ => collects_items place (n + 1) rest

end

/-! The path of a function that is found. -/

theorem callPath?_inside (modules tail : List String) :
    callPath? (place.inside modules) tail = callPath? place (modules ++ tail) := by
  rw [callPath?, callPath?, Place.inside, ← List.append_assoc]
  simp only [List.cons_append, List.append_assoc]

theorem eq_ofNames_of_callPath? {names : List String} {path : NamePath}
    (hplace : ∀ name ∈ place.module, IsName name) (hnames : ∀ name ∈ names, IsName name)
    (h : callPath? place names = some path) : path = .ofNames "crate" (place.module ++ names) := by
  have hroot : IsName "crate" := ⟨"crate".toList, 5, by decide +kernel, rfl⟩
  refine eq_ofNames_of_pathOf? (List.forall_mem_cons.2 ⟨hroot, ?_⟩) h
  exact List.forall_mem_append.2 ⟨hplace, hnames⟩

theorem path_of_converter? {owner : String} {path : NamePath} {sig : Signature}
    {found : ConverterFn × Event} (h : converter? owner path sig = some found) :
    found.1.path = path := by
  unfold converter? at h
  split at h
  · split at h
    · cases h
    · cases h
      rfl
  · cases h

theorem mem_convertersAt {owner : String} {tail : String → List String}
    {functions : List Signature} {f : ConverterFn}
    (h : f ∈ convertersAt place owner tail functions) :
    ∃ sig ∈ functions, callPath? place (tail sig.name) = some f.path ∧
      (converter? owner f.path sig).map (·.1) = some f := by
  obtain ⟨sig, hsig, hf⟩ := List.mem_filterMap.1 h
  obtain ⟨path, hpath, hconverter⟩ := Option.bind_eq_some_iff.1 hf
  obtain ⟨found, hfound, rfl⟩ := Option.map_eq_some_iff.1 hconverter
  rw [path_of_converter? hfound]
  exact ⟨sig, hsig, hpath, hconverter⟩

/-- A function that is found as a converter of an owner where the owner stands. It is called by the
path of the modules around the owner, the name of the owner and its own. -/
structure Called (place : Place) (v : Standing) (owner : String) (sig : Signature)
    (f : ConverterFn) : Prop where
  owned : v.item.owner? = some owner
  declared : sig ∈ v.item.functions
  converts : (converter? owner f.path sig).map (·.1) = some f
  path : f.path = .ofNames "crate" (place.module ++ v.modules ++ [owner, sig.name])

/-- All functions of a source are found where their owner stands. -/
def AllCalled (place : Place) (v : Standing) (source : ConverterSource) : Prop :=
  ∀ f ∈ source.functions, ∃ sig, Called place v source.name sig f

theorem Supplies.called {v : Standing} {source : ConverterSource}
    (h : Supplies place v source) (hplace : ∀ name ∈ place.module, IsName name)
    (hitem : v.item.Named) (hmodules : ∀ name ∈ v.modules, IsName name) :
    AllCalled place v source := by
  intro f hf
  have hcalled : v.item.owner? = some source.name ∧ ∃ sig ∈ v.item.functions,
      callPath? place (v.modules ++ [source.name, sig.name]) = some f.path ∧
        (converter? source.name f.path sig).map (·.1) = some f := by
    cases h with
    | submodule =>
      dsimp only at hf
      obtain ⟨sig, hsig, hpath, hconverter⟩ := mem_convertersAt hf
      -- The place inside of a module already ends with the owner.
      rw [callPath?_inside, List.append_assoc, List.singleton_append] at hpath
      exact ⟨rfl, sig, hsig, hpath, hconverter⟩
    | block howner =>
      dsimp only at hf
      obtain ⟨sig, hsig, hpath, hconverter⟩ := mem_convertersAt hf
      rw [callPath?_inside] at hpath
      exact ⟨howner, sig, hsig, hpath, hconverter⟩
  obtain ⟨howner, sig, hsig, hpath, hconverter⟩ := hcalled
  refine ⟨sig, howner, hsig, hconverter, ?_⟩
  rw [List.append_assoc]
  refine eq_ofNames_of_callPath? hplace (List.forall_mem_append.2 ⟨hmodules, ?_⟩) hpath
  simp [hitem.isName_owner howner, hitem.isName_function hsig]

section Called

variable {place' : Place} {v v' : Standing} {owner owner' : String} {sig sig' : Signature}
  {f f' : ConverterFn}

/-- A path has the owner as it is written when that is one name. -/
theorem Called.path_written_iff (h : Called place v owner sig f) {written : List String}
    (hwritten : v.item.writtenOwner? = some written) :
    f.path = .ofNames "crate" (place.module ++ v.modules ++ written ++ [sig.name]) ↔
      written.length = 1 := by
  have hlast : written.getLast? = some owner :=
    (Item.owner?_eq_getLast? hwritten).symm.trans h.owned
  rw [h.path, NamePath.ofNames_inj, ← List.singleton_append, ← List.append_assoc,
    List.append_cancel_right_eq, List.append_cancel_left_eq]
  constructor
  · rintro rfl
    rfl
  · intro hlength
    obtain ⟨name, rfl⟩ := List.length_eq_one_iff.1 hlength
    cases hlast
    rfl

theorem Called.path_eq_iff (h : Called place v owner sig f)
    (h' : Called place' v' owner' sig' f') : f.path = f'.path ↔
      place.module ++ v.modules = place'.module ++ v'.modules ∧ owner = owner' ∧
        sig.name = sig'.name := by
  rw [h.path, h'.path, NamePath.ofNames_inj]
  constructor
  · intro heq
    obtain ⟨hmodules, hnames⟩ := List.append_inj' heq rfl
    exact ⟨hmodules, by simpa using hnames⟩
  · rintro ⟨hmodules, rfl, hname⟩
    rw [hmodules, hname]

end Called

/-- The functions that a scan finds as converters, whether it fails later or not, are called by the
path of the modules around their owner, the last name of the owner and their own name. That is the
path of the owner as it is written when the owner is one name, and it tells apart the modules, the
last names of the owners and the names of the functions. -/
theorem call_paths_name_functions {text : String} {s : ScanState}
    (hplace : ∀ name ∈ place.module, IsName name) :
    (∃ marked sources, marked.Nodup ∧
      (∀ v ∈ marked, v.item.IsSource ∧
        ∃ content, itemsOf? text = some content ∧ StandsIn content v) ∧
      List.Forall₂ (AllCalled place) marked sources ∧
      ((source place text).run.run s).2.findings.converters =
        s.findings.converters ++ sources) ∧
    (∀ v owner sig f written, Called place v owner sig f →
      v.item.writtenOwner? = some written →
      (f.path = .ofNames "crate" (place.module ++ v.modules ++ written ++ [sig.name]) ↔
        written.length = 1)) ∧
    ∀ place' v v' owner owner' sig sig' f f',
      Called place v owner sig f → Called place' v' owner' sig' f' →
      (f.path = f'.path ↔ place.module ++ v.modules = place'.module ++ v'.modules ∧
        owner = owner' ∧ sig.name = sig'.name) := by
  refine ⟨?_, fun _ _ _ _ _ h hwritten => h.path_written_iff hwritten,
    fun _ _ _ _ _ _ _ _ _ h h' => h.path_eq_iff h'⟩
  unfold source
  cases hcontent : itemsOf? text with
  | none => exact ⟨[], [], .nil, nofun, .nil, (List.append_nil _).symm⟩
  | some content =>
    obtain ⟨marked, sources, hsub, hsource, hsupplies, hfound⟩ := collects_items place 0 content s
    -- The items of a text are listed once each, and the sources found are some of these.
    have hall := lists_standings content
    have hstands : ∀ v ∈ marked, StandsIn content v := fun v hv =>
      ((hall.mem_iff v).1 (hsub.subset hv)).1
    refine ⟨marked, sources, hall.nodup.sublist hsub,
      fun v hv => ⟨hsource v hv, content, rfl, hstands v hv⟩, ?_, hfound⟩
    have hnamed := allNamed_of_itemsOf? hcontent
    refine List.forall₂_iff_get.2 ⟨hsupplies.length_eq, fun i hi hi' => ?_⟩
    obtain ⟨hitem, hmodules⟩ := (hstands _ (List.getElem_mem hi)).named hnamed
    exact ((List.forall₂_iff_get.1 hsupplies).2 i hi hi').called hplace hitem hmodules

/-- A module of converters in a module. -/
def hoursInUnits : String :=
  "mod units { #[type_converters] mod hours { pub fn hours(days: i64) -> i64 { 0 } } }"

/-- The names by which the functions are called that a scan finds. -/
def calledNames (place : Place) (text : String) : List (List (List String)) :=
  (foundIn place text).converters.map (·.functions.map (·.path.names))

theorem call_paths_name_functions_units :
    (∀ name ∈ ["app"], IsName name) ∧ ∃ marked sources,
      List.Forall₂ (AllCalled ⟨"lib", ["app"]⟩) marked sources ∧
      sources.map (·.functions.map (·.path.names)) =
        [[["crate", "app", "units", "hours", "hours"]]] := by
  have happ : ∀ name ∈ ["app"], IsName name :=
    List.forall_mem_singleton.2 ⟨"app".toList, 3, by decide +kernel, rfl⟩
  have hnames : calledNames ⟨"lib", ["app"]⟩ hoursInUnits =
      [[["crate", "app", "units", "hours", "hours"]]] := by
    unfold calledNames hoursInUnits
    apply foundIn_of_items (f := fun found => found.converters.map (·.functions.map (·.path.names)))
    rw [itemsOf?_ofList]
    decide +kernel
  obtain ⟨⟨marked, sources, -, -, hcalled, hfound⟩, -⟩ :=
    @call_paths_name_functions ⟨"lib", ["app"]⟩ hoursInUnits {} happ
  refine ⟨happ, marked, sources, hcalled, ?_⟩
  rw [← hnames, calledNames, foundIn, hfound]
  rfl

/-- Implementations on types of one name in two modules. -/
def twoDays : String :=
  "mod early; mod late; " ++
    "#[type_converters] impl early::Days { pub fn days(d: Date) -> i64 { 0 } } " ++
    "#[type_converters] impl late::Days { pub fn days(t: Time) -> i64 { 0 } }"

/-- The owners as they are written of the sources of converters among some items, and the names by
which their functions are called. -/
def ownersAndCalls (place : Place) (content : List Item) :
    List (Option (List String)) × List (List (List String)) :=
  ((content.filter (isConverterSource ·.attributes)).map (·.writtenOwner?),
    ((items place content).run.run {}).2.findings.converters.map
      (·.functions.map (·.path.names)))

theorem calledNames_of_itemsOf? {text : String} {content : List Item}
    (h : itemsOf? text = some content) :
    calledNames place text = (ownersAndCalls place content).2 := by
  have hsource : source place text = items place content := by
    unfold source
    rw [h]
  unfold calledNames foundIn
  rw [hsource]
  rfl

/-- Functions of two types are called by one path when the types have one name, in two modules. -/
theorem owners_share_call_path :
    ∃ content, itemsOf? twoDays = some content ∧
      (content.filter (isConverterSource ·.attributes)).map (·.writtenOwner?) =
        [some ["early", "Days"], some ["late", "Days"]] ∧
      calledNames ⟨memoryPath, ["app"]⟩ twoDays =
        [[["crate", "app", "Days", "days"]], [["crate", "app", "Days", "days"]]] := by
  have hread : (itemsOf? twoDays).map (ownersAndCalls ⟨memoryPath, ["app"]⟩) =
      some ([some ["early", "Days"], some ["late", "Days"]],
        [[["crate", "app", "Days", "days"]], [["crate", "app", "Days", "days"]]]) := by
    unfold twoDays
    rw [← String.ofList_append, ← String.ofList_append, itemsOf?_ofList]
    decide +kernel
  obtain ⟨content, hcontent, heq⟩ := Option.map_eq_some_iff.1 hread
  exact ⟨content, hcontent, congrArg Prod.fst heq,
    (calledNames_of_itemsOf? hcontent).trans (congrArg Prod.snd heq)⟩

end Scan

end TypedPreferences
