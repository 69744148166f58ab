import TypedPreferences.Text.Replace

/-! Paths as texts: joined without looking at the files they name. -/

namespace TypedPreferences

def isAbsolutePath (path : String) : Bool :=
  path.toList.head? == some '/'

/-- A path below another one. An absolute path stays as it is, and one slash stands between the two,
unless the first is empty or ends with one. -/
def joinPath (base path : String) : String :=
  if isAbsolutePath path || base.isEmpty then path
  else if base.toList.getLast? == some '/' then base ++ path
  else base ++ "/" ++ path

def pathParts (path : String) : List String :=
  (Text.split "/" path.toList).map String.ofList

def isStep (part : String) : Bool :=
  !part.isEmpty && part != "."

/-- The paths on the way to a path, the shortest first. Each ends with a step, and the last step is
not on the way. -/
def waysTo (path : String) : List (List String) :=
  let parts := pathParts path
  let ways := (List.range parts.length).filter fun i => (parts[i]?).any isStep
  ways.dropLast.map fun i => parts.take (i + 1)

end TypedPreferences
