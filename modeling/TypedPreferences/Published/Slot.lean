/-! Values that are shared by identity, and slots that hold the one published last. -/

namespace TypedPreferences

/-- A value with an identity: a serial number that no other object has. -/
structure Shared (α : Type) where
  serial : Nat
  value : α
deriving Inhabited

def Shared.same {α : Type} (a b : Shared α) : Bool :=
  a.serial == b.serial

/-- A slot: the object published last, if any. -/
structure Slot (α : Type) where
  object? : Option (Shared α) := none
deriving Inhabited

namespace Slot

variable {α : Type}

def publish (_ : Slot α) (object : Shared α) : Slot α :=
  ⟨some object⟩

def isPublished (s : Slot α) : Bool :=
  s.object?.isSome

@[simp]
theorem object?_publish (s : Slot α) (object : Shared α) :
    (s.publish object).object? = some object := rfl

end Slot

/-- A slot and all objects that were made for it, in order. -/
structure SlotHistory (α : Type) where
  made : List (Shared α) := []
  slot : Slot α := {}
deriving Inhabited

namespace SlotHistory

variable {α : Type}

def publish (h : SlotHistory α) (value : α) : SlotHistory α :=
  let object : Shared α := ⟨h.made.length, value⟩
  ⟨h.made ++ [object], h.slot.publish object⟩

def republish? (h : SlotHistory α) (index : Nat) : Option (SlotHistory α) :=
  h.made[index]?.map fun object => { h with slot := h.slot.publish object }

def load? (h : SlotHistory α) : Option (α × Option Nat) :=
  h.slot.object?.map fun object => (object.value, h.made.findIdx? object.same)

end SlotHistory

end TypedPreferences
