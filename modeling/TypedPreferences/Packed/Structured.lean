import TypedPreferences.Packed.Tree

/-! Structured values in stores, as packed bytes. What cannot be read counts as missing, and what
cannot be packed is not written. -/

namespace TypedPreferences

open Packed

/-- A type of structured values: what its values look like, and which of them it refuses to pack,
with the reason. -/
structure Structured where
  schema : Schema
  refusal : Tree → Option String := fun _ => none
deriving Inhabited

/-- Why a structured value is not read or written. -/
inductive StructuredFault where
  | unreadable (key : String)
  | refused (key reason : String)
deriving DecidableEq, Repr

/-- The wording of a fault; bytes that are not readable have none of their own. -/
def StructuredFault.message? : StructuredFault → Option String
  | unreadable _ => none
  | refused key reason => some ("Failed to marshal value for key '" ++ key ++ "': " ++ reason)

/-- What is noted when a structured value is dropped. -/
inductive Warning where
  | discarded (key : String)
  | notWritten (key : String)
deriving DecidableEq, Repr

def Warning.message : Warning → String
  | discarded _ => "discarding unreadable structured preference"
  | notWritten _ => "structured preference was not written"

def Warning.key : Warning → String
  | discarded key => key
  | notWritten key => key

/-- The value that packed bytes hold. What follows the value is ignored. -/
def Structured.unpack? (t : Structured) (bytes : List UInt8) : Option Tree :=
  (Wire.ofBytes? bytes).bind t.schema.read?

def Structured.pack (t : Structured) (key : String) (value : Tree) :
    Except StructuredFault (List UInt8) :=
  match t.refusal value with
  | some reason => .error (.refused key reason)
  | none => .ok value.pack

/-- The value under a key. No entry, or one that is not bytes, is no value; bytes that hold no value
are a fault. -/
def Structured.tryDecode (t : Structured) (s : Store) (key : String) :
    Except StructuredFault (Option Tree) :=
  match Store.read? s .byteSequence key with
  | none => .ok none
  | some bytes =>
    match t.unpack? bytes with
    | some value => .ok (some value)
    | none => .error (.unreadable key)

def Structured.decode (t : Structured) (s : Store) (key : String) : Option Tree × List Warning :=
  match t.tryDecode s key with
  | .ok value => (value, [])
  | .error _ => (none, [.discarded key])

/-- The store after a value is written under a key; no value removes the key. -/
def Structured.tryEncode (t : Structured) (s : Store) (key : String) :
    Option Tree → Except StructuredFault Store
  | none => .ok (Store.writeOptional s .byteSequence key none)
  | some value =>
    (t.pack key value).map fun bytes => Store.writeOptional s .byteSequence key (some bytes)

/-- The store after a value is written under a key, and the warnings about it. A fault leaves the
store as it was. -/
def Structured.encode (t : Structured) (s : Store) (key : String) (value : Option Tree) :
    Store × List Warning :=
  match t.tryEncode s key value with
  | .ok s => (s, [])
  | .error _ => (s, [.notWritten key])

end TypedPreferences
