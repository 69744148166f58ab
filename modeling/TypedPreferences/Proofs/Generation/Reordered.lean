import Mathlib.Data.List.Perm.Basic
import TypedPreferences.Proofs.Generation.Failing
import TypedPreferences.Proofs.Scan.Additions

/-! The order of the sources. Names of enumerations and structured types are collected in sets, and
declarations are planned when all sources are scanned, so only the order of the converter functions
counts: the first that fits is chosen. -/

namespace TypedPreferences

namespace Findings

/-- The converter functions in order. -/
def functions (f : Findings) : List ConverterFn :=
  f.converters.flatMap (·.functions)

def hasConverters (f : Findings) : Bool :=
  !f.functions.isEmpty

/-- What was found is the same except for the order of the declarations and of what no declaration
is planned by. -/
structure Agrees (f f' : Findings) : Prop where
  enums : f.enums = f'.enums
  structured : f.structured = f'.structured
  declarations : f.declarations.Perm f'.declarations
  plans : ∀ rule d, (f.context rule).planDeclaration d = (f'.context rule).planDeclaration d

theorem context_eq (f : Findings) (rule : NullableRule) :
    f.context rule = ⟨f.enums.texts, f.structured.texts, ⟨rule, f.functions⟩⟩ := rfl

variable {ι γ : Type} (found : ι → Findings)

/-- What is found in several sources, in order. -/
def merged (sources : List ι) : Findings :=
  sources.foldl (fun f i => f.add (found i)) {}

theorem foldl_add_list (part : Findings → List γ)
    (hpart : ∀ f g, part (f.add g) = part f ++ part g) (sources : List ι) (f : Findings) :
    part (sources.foldl (fun f i => f.add (found i)) f) =
      part f ++ sources.flatMap fun i => part (found i) := by
  induction sources generalizing f with
  | nil => simp
  | cons i rest ih => rw [List.foldl_cons, ih, hpart, List.flatMap_cons, List.append_assoc]

theorem foldl_add_texts (part : Findings → TextSet)
    (hpart : ∀ f g, part (f.add g) = (part f).union (part g)) (sources : List ι) (f : Findings)
    (key : String) :
    key ∈ (part (sources.foldl (fun f i => f.add (found i)) f)).texts ↔
      key ∈ (part f).texts ∨ ∃ i ∈ sources, key ∈ (part (found i)).texts := by
  induction sources generalizing f with
  | nil => simp
  | cons i rest ih =>
    rw [List.foldl_cons, ih, hpart, TextSet.mem_texts_union, or_assoc]
    simp

theorem declarations_merged (sources : List ι) :
    (merged found sources).declarations = sources.flatMap fun i => (found i).declarations :=
  foldl_add_list found declarations (fun _ _ => rfl) sources {}

theorem functions_merged (sources : List ι) :
    (merged found sources).functions = sources.flatMap fun i => (found i).functions :=
  foldl_add_list found functions (fun _ _ => List.flatMap_append) sources {}

variable {found} {sources sources' : List ι}

/-- The sources in which no converter function is found have no part in the order of the others. -/
theorem functions_merged_filter (sources : List ι) :
    (merged found sources).functions =
      (sources.filter fun i => (found i).hasConverters).flatMap fun i => (found i).functions := by
  rw [functions_merged]
  induction sources with
  | nil => rfl
  | cons i rest ih =>
    rw [List.flatMap_cons, ih, List.filter_cons]
    split
    · rw [List.flatMap_cons]
    · rename_i hnone
      have hempty : (found i).functions = [] := by simpa [hasConverters] using hnone
      rw [hempty, List.nil_append]

theorem texts_merged_perm (part : Findings → TextSet)
    (hpart : ∀ f g, part (f.add g) = (part f).union (part g)) (hperm : sources.Perm sources') :
    part (merged found sources) = part (merged found sources') := by
  apply TextSet.ext_texts
  intro key
  rw [merged, merged, foldl_add_texts found part hpart, foldl_add_texts found part hpart]
  simp only [hperm.mem_iff]

theorem agrees_of_perm (hperm : sources.Perm sources')
    (horder : sources.filter (fun i => (found i).hasConverters) =
      sources'.filter fun i => (found i).hasConverters) :
    (merged found sources).Agrees (merged found sources') where
  enums := texts_merged_perm enums (fun _ _ => rfl) hperm
  structured := texts_merged_perm structured (fun _ _ => rfl) hperm
  declarations := by
    rw [declarations_merged, declarations_merged]
    exact hperm.flatMap_right _
  plans rule d := by
    have henums : (merged found sources).enums = (merged found sources').enums :=
      texts_merged_perm enums (fun _ _ => rfl) hperm
    have hstructured : (merged found sources).structured = (merged found sources').structured :=
      texts_merged_perm structured (fun _ _ => rfl) hperm
    have hfunctions : (merged found sources).functions = (merged found sources').functions := by
      rw [functions_merged_filter, functions_merged_filter, horder]
    rw [context_eq, context_eq, henums, hstructured, hfunctions]

end Findings

namespace Scan

/-- What is found in a source without a file. -/
def foundInText (t : String × String) : Findings :=
  foundIn ⟨memoryPath, modulePath t.2⟩ t.1

def faultOf? (outcome : Except Fault Unit) : Option Fault :=
  match outcome with
  | .ok _ => none
  | .error fault => some fault

theorem texts_cons (t : String × String) (rest : List (String × String)) (s : ScanState) :
    texts (t :: rest) s =
      (faultOf? ((text t.1 t.2).run.run s).1 :: (texts rest ((text t.1 t.2).run.run s).2).1,
        (texts rest ((text t.1 t.2).run.run s).2).2) := by
  rw [texts]
  generalize (text t.1 t.2).run.run s = ran
  rfl

theorem texts_run (ts : List (String × String)) (s : ScanState) :
    (texts ts s).1 = ts.map (fun t => faultOf? ((text t.1 t.2).run.run {}).1) ∧
      (texts ts s).2.findings = ts.foldl (fun f t => f.add (foundInText t)) s.findings := by
  induction ts generalizing s with
  | nil => exact ⟨rfl, rfl⟩
  | cons t rest ih =>
    have hsource := source_run ⟨memoryPath, modulePath t.2⟩ t.1 s
    obtain ⟨houtcome, hfound⟩ : ((text t.1 t.2).run.run s).1 = ((text t.1 t.2).run.run {}).1 ∧
      ((text t.1 t.2).run.run s).2.findings = s.findings.add (foundInText t) := hsource
    obtain ⟨hfaults, hrest⟩ := ih ((text t.1 t.2).run.run s).2
    rw [texts_cons]
    constructor
    · rw [hfaults, houtcome, List.map_cons]
    · rw [hrest, hfound, List.foldl_cons]

end Scan

namespace SourceFile

/-- What is found in a source file. -/
def foundIn (files : FileTree) (s : SourceFile) : Findings :=
  match files.readText s.path with
  | .error _ => {}
  | .ok text => Scan.foundIn ⟨s.path, s.module⟩ text

theorem scanned_eq (files : FileTree) (found : Findings) (s : SourceFile) :
    s.scanned files found = found.add (s.foundIn files) := by
  unfold scanned foundIn
  cases files.readText s.path with
  | error cause => exact found.add_empty.symm
  | ok text => exact (Scan.source_run _ _ _).2

end SourceFile

theorem Config.found_eq (c : Config) (files : FileTree) :
    c.found files = Findings.merged (SourceFile.foundIn files) c.sources := by
  have hstep : SourceFile.scanned files = fun f s => f.add (s.foundIn files) :=
    funext fun f => funext fun s => SourceFile.scanned_eq files f s
  rw [found, hstep, Findings.merged]

namespace Run

variable {files : FileTree} {c : Config}

/-- Discovering succeeds when no source has a fault. -/
theorem discover_of_faultless (h : c.sources.flatMap (SourceFile.faults files) = []) :
    ∃ after, (discover c).run.run { files } = (.ok (c.found files), after) := by
  have hchecked := (checks_discover c { files } rfl).2
  rcases hrun : (discover c).run.run { files } with ⟨fault | found, after⟩
  · rw [hrun, h] at hchecked
    cases hchecked
  · rw [hrun] at hchecked
    obtain ⟨-, rfl⟩ := hchecked
    exact ⟨after, rfl⟩

theorem faultless_of_discover {found : Findings} {after : RunState}
    (hrun : (discover c).run.run { files } = (.ok found, after)) :
    c.sources.flatMap (SourceFile.faults files) = [] ∧ found = c.found files := by
  have hchecked := (checks_discover c { files } rfl).2
  rw [hrun] at hchecked
  exact hchecked

/-- When sources that have no fault are put in another order, and those in which converter functions
are found stay in order among themselves, they have no fault either, what is found in them agrees,
and every declaration has the same plans or the same fault. This holds of sources without files and
of those that a generation reads. -/
theorem found_agrees_of_reordered :
    (∀ ts ts' : List (String × String), (∀ fault ∈ (Scan.texts ts {}).1, fault = none) →
      ts.Perm ts' → ts.filter (fun t => (Scan.foundInText t).hasConverters) =
        ts'.filter (fun t => (Scan.foundInText t).hasConverters) →
      (∀ fault ∈ (Scan.texts ts' {}).1, fault = none) ∧
        (Scan.texts ts {}).2.findings.Agrees (Scan.texts ts' {}).2.findings) ∧
    ∀ (files : FileTree) (c c' : Config) (found : Findings) (after : RunState),
      (discover c).run.run { files } = (.ok found, after) → c.sources.Perm c'.sources →
      c.sources.filter (fun s => (s.foundIn files).hasConverters) =
        c'.sources.filter (fun s => (s.foundIn files).hasConverters) →
      ∃ found' after', (discover c').run.run { files } = (.ok found', after') ∧
        found.Agrees found' := by
  constructor
  · intro ts ts' hfaultless hperm horder
    obtain ⟨hfaults, hfound⟩ := Scan.texts_run ts {}
    obtain ⟨hfaults', hfound'⟩ := Scan.texts_run ts' {}
    rw [hfaults] at hfaultless
    rw [hfaults', hfound, hfound']
    refine ⟨fun fault hfault => ?_, Findings.agrees_of_perm hperm horder⟩
    exact hfaultless fault ((hperm.map _).mem_iff.2 hfault)
  · intro files c c' found after hrun hperm horder
    -- A generation stops at its first fault, so one that ends has none, in any order.
    obtain ⟨hfaultless, rfl⟩ := faultless_of_discover hrun
    have hfaultless' : c'.sources.flatMap (SourceFile.faults files) = [] := by
      have hfaults := hperm.flatMap_right (SourceFile.faults files)
      rw [hfaultless] at hfaults
      exact hfaults.symm.eq_nil
    obtain ⟨after', hrun'⟩ := discover_of_faultless hfaultless'
    refine ⟨_, after', hrun', ?_⟩
    rw [Config.found_eq, Config.found_eq]
    exact Findings.agrees_of_perm hperm horder

end Run

section Lamps

/-- An enumeration, a converter, and a declaration with a field of the enumeration. -/
def lampTexts : List (String × String) :=
  [("#[derive(PrefEnum)]enum M\x7bA\x7d", "lamps"),
    ("#[type_converters]mod c\x7bpub fn f(s:S)->i64\x7b0\x7d\x7d", "seconds"),
    ("#[derive(Preferences)]struct L\x7b#[pref(default=M::A)]m:M\x7d", "app")]

def lampPaths : List SourceFile :=
  [⟨"mode.rs", ["lamps"]⟩, ⟨"seconds.rs", ["seconds"]⟩, ⟨"lamp.rs", ["app"]⟩]

def lampFiles : FileTree where
  entries := (lampPaths.zip lampTexts).map fun (s, t) => ([s.path], .file t.1.toUTF8)

def lampConfig (sources : List SourceFile) : Config where
  outDir := "out"
  sources

set_option maxRecDepth 10000 in
theorem read_lampTexts :
    lampTexts.map (fun t => (Scan.faultOf? ((Scan.text t.1 t.2).run.run {}).1,
      (Scan.foundInText t).hasConverters)) = [(none, false), (none, true), (none, false)] := by
  decide +kernel

set_option maxRecDepth 10000 in
theorem read_lampFiles :
    lampPaths.map (fun s => (s.faults lampFiles, (s.foundIn lampFiles).hasConverters)) =
      [([], false), ([], true), ([], false)] := by
  decide +kernel

/-- The declaration may come first: it finds the enumeration and the converters of the sources after
it. -/
theorem found_agrees_of_reversed_lamps :
    ((∀ fault ∈ (Scan.texts lampTexts.reverse {}).1, fault = none) ∧
      (Scan.texts lampTexts {}).2.findings.Agrees (Scan.texts lampTexts.reverse {}).2.findings) ∧
    ∃ found' after', (Run.discover (lampConfig lampPaths.reverse)).run.run { files := lampFiles } =
      (.ok found', after') ∧ ((lampConfig lampPaths).found lampFiles).Agrees found' := by
  have htexts := read_lampTexts
  have hfiles := read_lampFiles
  simp only [lampTexts, lampPaths, List.map_cons, List.map_nil, List.cons.injEq, Prod.mk.injEq]
    at htexts hfiles
  obtain ⟨⟨hmode, hmode'⟩, ⟨hseconds, hseconds'⟩, ⟨hlamp, hlamp'⟩, -⟩ := htexts
  obtain ⟨⟨hfile, hfile'⟩, ⟨hfile₂, hfile₂'⟩, ⟨hfile₃, hfile₃'⟩, -⟩ := hfiles
  constructor
  · refine Run.found_agrees_of_reordered.1 lampTexts lampTexts.reverse ?_
      (List.reverse_perm _).symm ?_
    · rw [(Scan.texts_run lampTexts {}).1]
      simp [lampTexts, hmode, hseconds, hlamp]
    · simp [lampTexts, hmode', hseconds', hlamp']
  · have hfaultless : (lampConfig lampPaths).sources.flatMap (SourceFile.faults lampFiles) = [] := by
      simp [lampConfig, lampPaths, hfile, hfile₂, hfile₃]
    obtain ⟨after, hrun⟩ := Run.discover_of_faultless hfaultless
    refine Run.found_agrees_of_reordered.2 lampFiles (lampConfig lampPaths)
      (lampConfig lampPaths.reverse) _ after hrun (List.reverse_perm _).symm ?_
    simp [lampConfig, lampPaths, hfile', hfile₂', hfile₃']

end Lamps

end TypedPreferences
