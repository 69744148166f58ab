import TypedPreferences.Source.Parse

/-! What a file of generated source shows at a glance. -/

namespace TypedPreferences

open Source

/-- The first line of a file, the names of its structures, and the value of the last constant in its
implementations. -/
structure FileSummary where
  firstLine : String
  structures : List String
  lastConstant : Option (List Token)

namespace FileSummary

def firstLineOf (text : String) : String :=
  let line := text.toList.takeWhile (· != '\n')
  let returned := line.length < text.length && line.getLast? == some '\r'
  String.ofList (if returned then line.dropLast else line)

def structure? (item : Item) : Option String :=
  match item.kind with
  | .record name _ _ => some name
  | _ => none

def constants (item : Item) : List (List Token) :=
  match item.kind with
  | .implementation block => block.members.filterMap fun | .constant value => some value | _ => none
  | _ => []

def of? (content : ByteArray) : Option FileSummary := do
  let text ← String.fromUTF8? content
  let items ← itemsOf? text
  return ⟨firstLineOf text, items.filterMap structure?, (items.flatMap constants).getLast?⟩

end FileSummary

end TypedPreferences
