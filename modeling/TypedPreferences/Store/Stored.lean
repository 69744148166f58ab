import TypedPreferences.Declared.Primitive
import TypedPreferences.Text.SortedMap

/-! Typed values in stores: every key holds one value of one of the eight kinds, and is read as a
value of a stated kind. -/

namespace TypedPreferences

/-- A floating-point number of 32 bits, given by its bits. -/
structure Binary32 where
  bits : UInt32
deriving DecidableEq, Repr, Inhabited

/-- A floating-point number of 64 bits, given by its bits. -/
structure Binary64 where
  bits : UInt64
deriving DecidableEq, Repr, Inhabited

def Primitive.Value : Primitive → Type
  | .boolean => Bool
  | .integer => Int32
  | .long => Int64
  | .float => Binary32
  | .double => Binary64
  | .byteSequence => List UInt8
  | .text => String
  | .textSet => TextSet

structure Stored where
  kind : Primitive
  value : kind.Value

def Stored.as? (s : Stored) (kind : Primitive) : Option kind.Value :=
  if h : s.kind = kind then some (h ▸ s.value) else none

@[simp]
theorem Stored.as?_mk (kind : Primitive) (value : kind.Value) :
    (Stored.mk kind value).as? kind = some value := by
  simp [Stored.as?]

theorem Stored.as?_of_ne {s : Stored} {kind : Primitive} (h : s.kind ≠ kind) :
    s.as? kind = none := by
  simp [Stored.as?, h]

theorem Stored.as?_eq_some_iff (s : Stored) (kind : Primitive) (value : kind.Value) :
    s.as? kind = some value ↔ s = ⟨kind, value⟩ := by
  constructor
  · intro h
    obtain ⟨kind', v⟩ := s
    by_cases hkind : kind' = kind
    · subst hkind
      rw [as?_mk] at h
      rw [Option.some.inj h]
    · rw [as?_of_ne hkind] at h
      cases h
  · rintro rfl
    exact as?_mk kind value

abbrev Store := SortedMap Stored

namespace Store

/-- The value of a kind under a key; none when the key is missing or holds another kind. -/
def read? (s : Store) (kind : Primitive) (key : String) : Option kind.Value :=
  (s.get? key).bind (·.as? kind)

theorem read?_eq_some_iff (s : Store) (kind : Primitive) (key : String) (value : kind.Value) :
    read? s kind key = some value ↔ s.get? key = some ⟨kind, value⟩ := by
  rw [read?, Option.bind_eq_some_iff]
  simp only [Stored.as?_eq_some_iff, exists_eq_right]

def read (s : Store) (kind : Primitive) (key : String) (fallback : kind.Value) : kind.Value :=
  (read? s kind key).getD fallback

def write (s : Store) (kind : Primitive) (key : String) (value : kind.Value) : Store :=
  s.insert key ⟨kind, value⟩

def writeOptional (s : Store) (kind : Primitive) (key : String) : Option kind.Value → Store
  | some value => write s kind key value
  | none => s.erase key

@[simp]
theorem read?_write (s : Store) (kind : Primitive) (key : String) (value : kind.Value) :
    read? (write s kind key value) kind key = some value := by
  simp [read?, write]

theorem read?_write_of_ne (s : Store) (kind kind' : Primitive) {key key' : String}
    (value : kind.Value) (h : key' ≠ key) :
    read? (write s kind key value) kind' key' = read? s kind' key' := by
  simp [read?, write, h]

end Store

end TypedPreferences
