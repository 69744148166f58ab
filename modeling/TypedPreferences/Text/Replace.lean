/-! Replacing and splitting at the occurrences of a text, found from left to right without overlap.
-/

namespace TypedPreferences.Text

def replaceAfter (pattern replacement : List Char) : Nat → List Char → List Char
  | _, [] => []
  | skip + 1, _ :: cs => replaceAfter pattern replacement skip cs
  | 0, c :: cs =>
    if pattern.isPrefixOf (c :: cs) then
      replacement ++ replaceAfter pattern replacement (pattern.length - 1) cs
    else c :: replaceAfter pattern replacement 0 cs

def replace (pattern replacement : String) (cs : List Char) : List Char :=
  replaceAfter pattern.toList replacement.toList 0 cs

/-- The parts between the occurrences of a separator after the first `skip` characters, which are
dropped. `part` is the current part, last character first. -/
def splitAfter (separator part : List Char) : Nat → List Char → List (List Char)
  | _, [] => [part.reverse]
  | skip + 1, _ :: cs => splitAfter separator part skip cs
  | 0, c :: cs =>
    if separator.isPrefixOf (c :: cs) then
      part.reverse :: splitAfter separator [] (separator.length - 1) cs
    else splitAfter separator (c :: part) 0 cs

/-- The parts of a text between the occurrences of a separator: one more than there are occurrences.
-/
def split (separator : String) (cs : List Char) : List (List Char) :=
  splitAfter separator.toList [] 0 cs

def dropCopies (word : List Char) : Nat → List Char → List Char
  | 0, cs => cs
  | fuel + 1, cs => if word.isPrefixOf cs then dropCopies word fuel (cs.drop word.length) else cs

end TypedPreferences.Text
