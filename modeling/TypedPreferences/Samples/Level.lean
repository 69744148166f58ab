import TypedPreferences.Derive.Ordinals

/-! Levels and sets of them, and a power switch: types of the sample declarations. -/

namespace TypedPreferences.Samples

inductive Level where
  | low
  | medium
  | high
deriving DecidableEq, Repr, Inhabited

namespace Level

def all : List Level := [low, medium, high]

def name : Level → String
  | low => "Low"
  | medium => "Medium"
  | high => "High"

def ofName? (name : String) : Option Level :=
  all.find? (·.name == name)

def ordinal : Level → Int32
  | low => 0
  | medium => 1
  | high => 2

def ofOrdinal? (ordinal : Int32) : Option Level :=
  all.find? (·.ordinal == ordinal)

def ordinals : Ordinals := ⟨all.map name⟩

theorem ofOrdinal?_ordinal (l : Level) : ofOrdinal? l.ordinal = some l := by
  cases l <;> rfl

end Level

structure LevelSet where
  low : Bool := false
  medium : Bool := false
  high : Bool := false
deriving DecidableEq, Repr, Inhabited

namespace LevelSet

def contains (s : LevelSet) : Level → Bool
  | .low => s.low
  | .medium => s.medium
  | .high => s.high

def toList (s : LevelSet) : List Level :=
  Level.all.filter s.contains

def ofList (levels : List Level) : LevelSet :=
  ⟨levels.contains .low, levels.contains .medium, levels.contains .high⟩

theorem ofList_toList (s : LevelSet) : ofList s.toList = s := by
  obtain ⟨l, m, h⟩ := s
  cases l <;> cases m <;> cases h <;> rfl

end LevelSet

inductive Power where
  | on
  | off
deriving DecidableEq, Repr, Inhabited

def modeOrdinals : Ordinals := ⟨["Off", "Auto", "On"]⟩

end TypedPreferences.Samples
