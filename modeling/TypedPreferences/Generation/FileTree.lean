import TypedPreferences.Declared.Fault
import TypedPreferences.Generation.FilePath

/-! Files and directories below a working directory, and what is done with them. -/

namespace TypedPreferences

inductive Entry where
  | directory
  | file (content : ByteArray)

/-- Files and directories by the names on the way to them. The working directory has no names on its
way and is always there. -/
structure FileTree where
  entries : List (List String × Entry) := []

namespace FileTree

def find? (t : FileTree) (place : List String) : Option Entry :=
  if place.isEmpty then some .directory else t.entries.lookup place

def put (t : FileTree) (place : List String) (entry : Entry) : FileTree :=
  ⟨(place, entry) :: t.entries.filter (·.1 != place)⟩

def requireDirectory (t : FileTree) (place : List String) : Except FileFault Unit :=
  match t.find? place with
  | some .directory => .ok ()
  | some (.file _) => .error .notDirectory
  | none => .error .notFound

def walk (t : FileTree) (place : List String) : List String → Except FileFault (List String)
  | [] => .ok place
  | part :: rest => do
    t.requireDirectory place
    if part.isEmpty || part == "." then t.walk place rest
    else if part == ".." then
      if place.isEmpty then throw .notFound else t.walk place.dropLast rest
    else t.walk (place ++ [part]) rest

/-- The place that a path leads to. Paths that leave the working directory lead nowhere. -/
def locate (t : FileTree) (path : String) : Except FileFault (List String) :=
  if path.isEmpty || isAbsolutePath path then .error .notFound else t.walk [] (pathParts path)

def readText (t : FileTree) (path : String) : Except FileFault String := do
  let place ← t.locate path
  match t.find? place with
  | none => throw .notFound
  | some .directory => throw .isDirectory
  | some (.file content) =>
    match String.fromUTF8? content with
    | some text => return text
    | none => throw .notText

def isDirectory (t : FileTree) (parts : List String) : Bool :=
  match t.walk [] parts with
  | .error _ => false
  | .ok place => (t.requireDirectory place).isOk

def makeDirectory (t : FileTree) (parts : List String) : Except FileFault FileTree := do
  let place ← t.walk [] (parts.reverse.dropWhile (·.isEmpty)).reverse
  match t.find? place with
  | some _ => throw .alreadyThere
  | none => return t.put place .directory

def ensureDirectory (t : FileTree) (parts : List String) : Except FileFault FileTree :=
  match t.makeDirectory parts with
  | .error .alreadyThere => if t.isDirectory parts then .ok t else .error .alreadyThere
  | outcome => outcome

def makeDirectories (t : FileTree) (path : String) : Except FileFault FileTree :=
  if isAbsolutePath path then .error .notFound
  else if path.isEmpty then .ok t
  else
    match t.ensureDirectory (pathParts path) with
    | .error .notFound => do
      (← (waysTo path).foldlM ensureDirectory t).ensureDirectory (pathParts path)
    | outcome => outcome

def writeBytes (t : FileTree) (path : String) (content : ByteArray) :
    Except FileFault FileTree := do
  let place ← t.locate path
  t.requireDirectory place.dropLast
  match t.find? place with
  | some .directory => throw .isDirectory
  | _ => return t.put place (.file content)

def writeText (t : FileTree) (path text : String) : Except FileFault FileTree :=
  t.writeBytes path text.toUTF8

/-- Makes a file and the directories on the way to it; without content, a directory. -/
def add (t : FileTree) (path : String) : Option ByteArray → Except FileFault FileTree
  | none => t.makeDirectories path
  | some content => do (← (waysTo path).foldlM ensureDirectory t).writeBytes path content

def filesIn (t : FileTree) (path : String) : List (String × ByteArray) :=
  match t.locate path with
  | .error _ => []
  | .ok place =>
    t.entries.filterMap fun (here, entry) =>
      match entry, here.getLast? with
      | .file content, some name => if here == place ++ [name] then some (name, content) else none
      | _, _ => none

end FileTree

end TypedPreferences
