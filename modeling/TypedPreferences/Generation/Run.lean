import TypedPreferences.Generation.FileTree
import TypedPreferences.Generation.Generate

/-! A generation from source files to generated files. Nothing is written before everything is
generated. -/

namespace TypedPreferences

/-- What a run reads and changes: the files, the lines it prints, and what it reports. -/
structure RunState where
  files : FileTree
  printed : List String := []
  events : List Event := []

/-- A run, which may fail; what it printed, reported and wrote before stays. -/
abbrev Run := ExceptT Fault (StateM RunState)

/-- What a run has made: the declarations and the paths of their files, in order. -/
structure RunReport where
  declarations : List String := []
  files : List String := []

namespace Run

def announcement (path : String) : String :=
  "cargo:rerun-if-changed=" ++ path

def change (f : RunState → RunState) : Run Unit :=
  modifyThe RunState f

def atPath {α : Type} (path : String) (outcome : Except FileFault α) : Run α :=
  match outcome with
  | .ok a => return a
  | .error cause => throw (.file path cause)

def discoverFile (announce : Bool) (found : Findings) (source : SourceFile) : Run Findings := do
  if announce then change fun s => { s with printed := s.printed ++ [announcement source.path] }
  let text ← atPath source.path ((← get).files.readText source.path)
  let (outcome, after) :=
    ((Scan.source ⟨source.path, source.module⟩ text).run).run { findings := found }
  change fun s => { s with events := s.events ++ after.events.toList }
  match outcome with
  | .ok () => return after.findings
  | .error fault => throw fault

def discover (c : Config) : Run Findings :=
  c.sources.foldlM (discoverFile c.announce) {}

def generate (c : Config) (found : Findings) : Run (List GeneratedFile) := do
  let (outcome, events) := (found.generate c).perform
  change fun s => { s with events := s.events ++ events }
  match outcome with
  | .ok files => return files
  | .error fault => throw fault

def writeFile (outDir : String) (report : RunReport) (file : GeneratedFile) : Run RunReport := do
  let path := joinPath outDir file.name
  let files ← atPath path ((← get).files.writeText path file.text)
  change fun s => { s with files, events := s.events ++ [.wroteFile file.declaration path] }
  return ⟨report.declarations ++ [file.declaration], report.files ++ [path]⟩

def all (c : Config) : Run RunReport := do
  let files ← generate c (← discover c)
  let tree ← atPath c.outDir ((← get).files.makeDirectories c.outDir)
  change fun s => { s with files := tree }
  files.foldlM (writeFile c.outDir) {}

end Run

/-- Runs a generation on some files: its outcome, and what it changed. -/
def Config.run (c : Config) (files : FileTree) : Except Fault RunReport × RunState :=
  (Run.all c).run.run { files }

end TypedPreferences
