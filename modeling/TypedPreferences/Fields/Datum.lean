import TypedPreferences.Packed.Structured
import TypedPreferences.Store.Sentinel

/-! Values of fields: values that a store holds, values that may be missing, entries of
enumerations, structured values, and values that only converter functions know. -/

namespace TypedPreferences

inductive Datum (F : Type) where
  | stored (s : Stored)
  | absent
  | present (d : Datum F)
  | entry (name : String)
  | tree (t : Packed.Tree)
  | foreign (f : F)

instance {F : Type} : Inhabited (Datum F) := ⟨.absent⟩

/-- Whether a number of 32 bits equals another as a number: what is no number equals nothing, and
both zeros are equal. -/
def Binary32.equals (a b : Binary32) : Bool :=
  let magnitude (x : Binary32) : Nat := x.bits.toNat % 0x80000000
  let isNumber (x : Binary32) : Bool := magnitude x ≤ 0x7f800000
  isNumber a && isNumber b && (a.bits == b.bits || (magnitude a == 0 && magnitude b == 0))

/-- Whether a number of 64 bits equals another as a number: what is no number equals nothing, and
both zeros are equal. -/
def Binary64.equals (a b : Binary64) : Bool :=
  let magnitude (x : Binary64) : Nat := x.bits.toNat % 0x8000000000000000
  let isNumber (x : Binary64) : Bool := magnitude x ≤ 0x7ff0000000000000
  isNumber a && isNumber b && (a.bits == b.bits || (magnitude a == 0 && magnitude b == 0))

/-- Whether two values of a kind are equal; floating-point numbers as numbers. -/
def Primitive.equals : (kind : Primitive) → kind.Value → kind.Value → Bool
  | .boolean => fun (a b : Bool) => a == b
  | .integer => fun (a b : Int32) => a == b
  | .long => fun (a b : Int64) => a == b
  | .float => Binary32.equals
  | .double => Binary64.equals
  | .byteSequence => fun (a b : List UInt8) => a == b
  | .text => fun (a b : String) => a == b
  | .textSet => fun (a b : TextSet) => a.texts == b.texts

def Stored.equals (a b : Stored) : Bool :=
  (b.as? a.kind).any (a.kind.equals a.value)

namespace Packed

mutual

/-- Whether two structured values are equal; floating-point numbers as numbers. -/
def Tree.equals : Tree → Tree → Bool
  | .unit, .unit => true
  | .bool a, .bool b => a == b
  | .int a, .int b => a == b
  | .single a, .single b => a.equals b
  | .double a, .double b => a.equals b
  | .text a, .text b => a == b
  | .missing, .missing => true
  | .given a, .given b => a.equals b
  | .list a, .list b => equalItems a b
  | .dictionary a, .dictionary b => equalEntries a b
  | .record a, .record b => equalEntries a b
  | .choice a none, .choice b none => a == b
  | .choice a (some s), .choice b (some t) => a == b && s.equals t
  | _, _ => false

def equalItems : List Tree → List Tree → Bool
  | [], [] => true
  | a :: as, b :: bs => a.equals b && equalItems as bs
  | _, _ => false

def equalEntries : List (String × Tree) → List (String × Tree) → Bool
  | [], [] => true
  | (m, a) :: as, (n, b) :: bs => m == n && a.equals b && equalEntries as bs
  | _, _ => false

end

end Packed

namespace Datum

variable {F : Type}

def ofOption {α : Type} (f : α → Datum F) : Option α → Datum F
  | some a => present (f a)
  | none => absent

/-- The value inside one that may be missing; one that cannot be missing is itself. -/
def payload : Datum F → Datum F
  | present d => d
  | d => d

def isAbsent : Datum F → Bool
  | absent => true
  | _ => false

def stored? : Datum F → Option Stored
  | stored s => some s
  | _ => none

def as? (d : Datum F) (kind : Primitive) : Option kind.Value :=
  d.stored?.bind (·.as? kind)

def optionAs (d : Datum F) (kind : Primitive) : Option kind.Value :=
  match d with
  | present d => d.as? kind
  | _ => none

def entry? : Datum F → Option String
  | entry name => some name
  | _ => none

def tree? : Datum F → Option Packed.Tree
  | tree t => some t
  | _ => none

def isSentinel (d : Datum F) : Bool :=
  d.stored?.any fun s => s.kind.isSentinel s.value

/-- Whether two values are equal, given when foreign values are; floating-point numbers are compared
as numbers. -/
def equals (foreignEquals : F → F → Bool) : Datum F → Datum F → Bool
  | stored a, stored b => a.equals b
  | absent, absent => true
  | present a, present b => equals foreignEquals a b
  | entry a, entry b => a == b
  | tree a, tree b => a.equals b
  | foreign a, foreign b => foreignEquals a b
  | _, _ => false

end Datum

end TypedPreferences
