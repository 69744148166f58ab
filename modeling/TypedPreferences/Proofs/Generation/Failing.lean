import TypedPreferences.Generation.Run
import TypedPreferences.Proofs.Scan.Faults

/-! What a generation does when something is wrong: everything is checked before anything is
written, in the order sources, path of the library, declarations, so a run fails with the first
fault and leaves the files as they were. -/

namespace TypedPreferences

open Source

namespace Context

/-- The faults of fields that come after some names: a name that comes again, or a field that cannot
be planned. -/
def fieldFaults (c : Context) (declaration : String) (seen : List String) :
    List Field → List Fault
  | [] => []
  | field :: rest =>
    (if seen.contains field.name then [.duplicateField declaration field.name] else []) ++
      (match c.planOf declaration field with
        | .ok _ => []
        | .error fault => [fault]) ++
      c.fieldFaults declaration (field.name :: seen) rest

/-- The plans of the fields that can be planned. -/
def plansOf (c : Context) (declaration : String) (fields : List Field) :
    List (FieldKind × FieldPlan) :=
  fields.filterMap fun field => (c.planOf declaration field).toOption

end Context

namespace Findings

/-- Generated source that cannot be read again. -/
def formatFaults (declaration : String) (generated : List Token) : List Fault :=
  match parse? readItems generated with
  | some _ => []
  | none => [.format declaration]

def declarationFaults (c : Context) (runtime : NamePath) (d : Declaration) : List Fault :=
  c.fieldFaults d.name [] d.fields ++
    formatFaults d.name (Emission.declarationTokens runtime.tokens d
      ((c.plansOf d.name d.fields).map (·.2)))

/-- The faults after scanning: those of the path of the library, then those of each declaration. -/
def faults (f : Findings) (c : Config) : List Fault :=
  match c.runtimePath with
  | .error fault => [fault]
  | .ok runtime => f.declarations.flatMap (declarationFaults (f.context c.rule) runtime)

end Findings

namespace SourceFile

/-- The faults of a source: its file cannot be read, or its text has faults. -/
def faults (files : FileTree) (s : SourceFile) : List Fault :=
  match files.readText s.path with
  | .error cause => [.file s.path cause]
  | .ok text => Scan.textFaults ⟨s.path, s.module⟩ text

/-- What is found once a source is scanned too. A scan that fails leaves what it found. -/
def scanned (files : FileTree) (found : Findings) (s : SourceFile) : Findings :=
  match files.readText s.path with
  | .error _ => found
  | .ok text => ((Scan.source ⟨s.path, s.module⟩ text).run.run { findings := found }).2.findings

end SourceFile

namespace Config

/-- What is found in all sources. -/
def found (c : Config) (files : FileTree) : Findings :=
  c.sources.foldl (SourceFile.scanned files) {}

/-- Everything that is wrong with a generation: the faults of the sources, then of the path of the
library, then of the declarations. -/
def faults (c : Config) (files : FileTree) : List Fault :=
  c.sources.flatMap (SourceFile.faults files) ++ (c.found files).faults c

end Config

namespace Context

abbrev anyReports : Array Event → Prop := fun _ => True

theorem checks_report (e : Event) : Checks anyReports (Work.report e) [] fun _ => True :=
  checks_modify fun _ _ => trivial

theorem checked_perform {α : Type} {w : Work α} {faults : List Fault} {post : α → Prop}
    (h : Checks anyReports w faults post) : Checked faults post w.perform.1 :=
  (h #[] trivial).2

/-- A field alone: the fault that it has, or its plan. -/
theorem checks_planField (c : Context) (declaration : String) (field : Field) :
    Checks anyReports (c.planField declaration field)
      (match c.planOf declaration field with
        | .ok _ => []
        | .error fault => [fault])
      fun plan => c.planOf declaration field = .ok plan := by
  unfold planField
  cases c.planOf declaration field with
  | error fault => exact checks_stop _ _
  | ok plan =>
    refine (checks_pure plan).after ?_
    rintro plan rfl
    exact (checks_report _).after fun _ _ => Checks.pure rfl

theorem checks_planFields (c : Context) (declaration : String) (seen : List String)
    (fields : List Field) :
    Checks anyReports (c.planFields declaration seen fields)
      (c.fieldFaults declaration seen fields) (· = c.plansOf declaration fields) := by
  induction fields generalizing seen with
  | nil => exact Checks.pure rfl
  | cons field rest ih =>
    rw [planFields, fieldFaults, List.append_assoc]
    refine Checks.throwIf _ _ ((c.checks_planField declaration field).bind fun plan hplan => ?_)
    rw [plansOf, List.filterMap_cons, hplan, ← List.append_nil (c.fieldFaults _ _ _)]
    refine (ih (field.name :: seen)).bind fun plans hplans => Checks.pure ?_
    rw [hplans]
    rfl

end Context

namespace Findings

open Context

end Findings

namespace Run

variable {files : FileTree}

/-- The files are as they were. -/
abbrev Untouched (files : FileTree) (s : RunState) : Prop :=
  s.files = files

theorem checks_change {α : Type} {w : Run α} {faults : List Fault} {post : α → Prop}
    {f : RunState → RunState} (hf : ∀ s, (f s).files = s.files)
    (h : Checks (Untouched files) w faults post) :
    Checks (Untouched files) (change f >>= fun _ => w) faults post :=
  (checks_modify fun s hs => (hf s).trans hs).after fun _ _ => h

theorem checks_changeWhen {α : Type} {rest : PUnit → Run α} {faults : List Fault}
    {post : α → Prop} {f : RunState → RunState} (condition : Bool)
    (hf : ∀ s, (f s).files = s.files) (h : Checks (Untouched files) (rest ⟨⟩) faults post) :
    Checks (Untouched files) (if condition = true then change f >>= rest else rest ⟨⟩) faults
      post := by
  cases condition with
  | false => exact h
  | true => exact checks_change hf h

theorem checks_get : Checks (Untouched files) (get : Run RunState) [] (Untouched files) :=
  fun _ hs => ⟨hs, rfl, hs⟩

/-- A source is read and scanned; the files are only looked at. -/
theorem checks_discoverFile (announce : Bool) (found : Findings) (source : SourceFile) :
    Checks (Untouched files) (discoverFile announce found source) (source.faults files)
      (· = source.scanned files found) := by
  unfold discoverFile SourceFile.faults SourceFile.scanned
  refine checks_changeWhen announce (fun _ => rfl) (checks_get.after fun s hs => ?_)
  subst hs
  cases s.files.readText source.path with
  | error cause => exact checks_stop _ _
  | ok text =>
    refine (checks_pure text).after ?_
    rintro text rfl
    -- The scan starts with what was found before, which has no part in its faults.
    have hscan := (Scan.checks_source ⟨source.path, source.module⟩ text { findings := found }
      trivial).2
    dsimp only
    generalize (Scan.source ⟨source.path, source.module⟩ text).run.run { findings := found } =
      scanned at hscan ⊢
    obtain ⟨fault | done, after⟩ := scanned
    · exact checks_change (fun _ => rfl) (Checks.throw hscan)
    · obtain ⟨hnone, -⟩ := hscan
      rw [hnone]
      exact checks_change (fun _ => rfl) (Checks.pure rfl)

theorem checks_discover (c : Config) :
    Checks (Untouched files) (discover c) (c.sources.flatMap (SourceFile.faults files))
      (· = c.found files) :=
  checks_foldlM (checks_discoverFile c.announce) c.sources {}

end Run

section Mixed

/-- Two source files: one with a proper declaration, one whose declaration has a parameter. -/
def mixed : FileTree where
  entries := [
    (["a.rs"], .file "#[derive(Preferences)]struct A\x7b#[pref(default=1)]x:i32\x7d".toUTF8),
    (["b.rs"], .file "#[derive(Preferences)]struct B<T>\x7bx:T\x7d".toUTF8)]

end Mixed

end TypedPreferences
