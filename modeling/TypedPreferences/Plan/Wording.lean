import TypedPreferences.Plan.Step

/-! How steps are worded: each by its name, with what it is about in brackets. -/

namespace TypedPreferences

def NullableRule.name : NullableRule → String
  | lenient => "Lenient"
  | exact => "Exact"

def about (name subject : String) : String :=
  name ++ "(" ++ subject ++ ")"

def Read.wording : Read → String
  | scalar kind => about "Scalar" kind.name
  | existence kind => about "Existence" kind.name
  | nullableScalar kind => about "NullableScalar" kind.name
  | ordinal => "Ordinal"
  | marshal => "Marshal"

def AbsenceCheck.name : AbsenceCheck → String
  | sentinel => "Sentinel"
  | keyMissing => "KeyMissing"
  | noneValue => "NoneValue"

def PersistGuard.name : PersistGuard → String
  | always => "Always"
  | defaultPresent => "DefaultPresent"
  | defaultNotSentinel => "DefaultNotSentinel"

/-- The wording of a step that is taken when the value is missing. -/
def AbsentStep.wording : AbsentStep → String
  | persistDefault guard => about "PersistDefault" guard.name
  | returnDefault => "ReturnDefault"

def withParts (name : String) (parts : List (String × String)) : String :=
  name ++ " \x7b " ++ ", ".intercalate (parts.map fun (part, text) => part ++ ": " ++ text) ++
    " \x7d"

/-- The part of a wording that tells whether a value may be missing. -/
def nullablePart (nullable : Bool) : String × String :=
  ("nullable", if nullable then "true" else "false")

def Write.wording : Write → String
  | scalar kind => about "Scalar" kind.name
  | existence kind nullable =>
    withParts "Existence" [("primitive", kind.name), nullablePart nullable]
  | ordinal nullable => withParts "Ordinal" [nullablePart nullable]
  | marshal nullable => withParts "Marshal" [nullablePart nullable]
  | nullableScalar kind => about "NullableScalar" kind.name

end TypedPreferences
