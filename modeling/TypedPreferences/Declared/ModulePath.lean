import TypedPreferences.Text.Blank
import TypedPreferences.Text.Replace

/-! The path of a module below the root of its program. -/

namespace TypedPreferences

def rootWord : List Char := "crate".toList

/-- The segments of a module path: the parts between double colons without outer white space, except
empty parts and the word for the root. -/
def modulePath (text : String) : List String :=
  let cs := Text.dropCopies (rootWord ++ "::".toList) text.length text.toList
  let parts := (Text.split "::" cs).map Text.trim
  (parts.filter fun part => !part.isEmpty && part != rootWord).map String.ofList

end TypedPreferences
