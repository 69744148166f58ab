import TypedPreferences.Declared.Fault

/-! What a generation reports while it works. -/

namespace TypedPreferences

inductive Event where
  | foundConverter (converter receiver output : String)
  | foundDeclaration (declaration : String) (fields : Nat)
  | plannedField (declaration field kind : String) (persistDefault : Bool)
  | generating (declaration id : String)
  | wroteFile (declaration path : String)
deriving DecidableEq, Repr

def Event.title : Event → String
  | foundConverter .. => "found converter candidate"
  | foundDeclaration .. => "found preferences declaration"
  | plannedField .. => "planned field"
  | generating .. => "codegen.declaration"
  | wroteFile .. => "wrote preferences implementation"

/-- Work that reports and may fail; what was reported before a failure stays. -/
abbrev Work := ExceptT Fault (StateM (Array Event))

namespace Work

def report (e : Event) : Work Unit :=
  modifyThe (Array Event) (·.push e)

def perform {α : Type} (w : Work α) : Except Fault α × List Event :=
  let (outcome, events) := (w.run).run #[]
  (outcome, events.toList)

end Work

end TypedPreferences
