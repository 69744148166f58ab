import TypedPreferences.Conversion.Registry
import TypedPreferences.Declared.Declaration

/-! The steps by which a field is read from a store and written to it. -/

namespace TypedPreferences

open Source

/-- How the raw value of a field is read. -/
inductive Read where
  -- A value, or a reserved one when the entry is missing.
  | scalar (kind : Primitive)
  -- A value, or none when the entry is missing.
  | existence (kind : Primitive)
  -- The entry of an enumeration, through its ordinal.
  | ordinal
  -- A structured value.
  | marshal
  -- An optional number or truth value, through a wider kind.
  | nullableScalar (kind : Primitive)
deriving DecidableEq, Repr

inductive AbsenceCheck where
  | sentinel
  | keyMissing
  | noneValue
deriving DecidableEq, Repr

/-- When a default may be written to the store. -/
inductive PersistGuard where
  | always
  | defaultPresent
  | defaultNotSentinel
deriving DecidableEq, Repr

/-- A step that is taken when the value is missing. -/
inductive AbsentStep where
  | persistDefault (guard : PersistGuard)
  | returnDefault
deriving DecidableEq, Repr

/-- A call of a decoder: how the argument is passed, and whether a text set is collected first. -/
structure DecodeCall where
  path : NamePath
  byRef : Bool
  optional : Bool
  collectSet : Bool

inductive Product where
  | value
  | collectSet
  | decoded (call : DecodeCall)

inductive DecodeStep where
  | read (raw : Read)
  | onAbsent (check : AbsenceCheck) (branch : List AbsentStep)
  | produce (product : Product) (wrapSome : Bool)

/-- A call of an encoder: how the argument is passed. -/
structure EncodeCall where
  path : NamePath
  byRef : Bool
  wrapSome : Bool

inductive Write where
  | scalar (kind : Primitive)
  | existence (kind : Primitive) (nullable : Bool)
  | ordinal (nullable : Bool)
  | marshal (nullable : Bool)
  | nullableScalar (kind : Primitive)
deriving DecidableEq, Repr

inductive EncodeStep where
  | convert (call : EncodeCall)
  | write (raw : Write)

inductive FieldKind where
  | ordinal
  | structured
  | primitive (kind : Primitive)
  | converted (pair : ConverterPair)

def FieldKind.label : FieldKind → String
  | ordinal => "enum"
  | structured => "structured"
  | primitive kind => kind.name
  | converted pair => "converted via " ++ pair.primitive.name

structure FieldPlan where
  field : Field
  decode : List DecodeStep
  encode : List EncodeStep

end TypedPreferences
