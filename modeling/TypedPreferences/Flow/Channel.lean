/-! Channels: a current value that is replaced again and again, and receivers that tell whether they
have seen it. Every replacement counts, one by an equal value too. -/

namespace TypedPreferences

/-- A channel: its value, and how often it was replaced. -/
structure Channel (α : Type) where
  value : α
  version : Nat := 0
deriving Inhabited

/-- A receiver of a channel: the version it has seen. -/
structure Receiver where
  seen : Nat
deriving DecidableEq, Repr, Inhabited

/-- What a receiver learns when it looks for a change: none yet, none any more, or the value. -/
inductive Notice (α : Type) where
  | pending
  | closed
  | changed (value : α)
deriving DecidableEq, Repr

def Notice.map {α β : Type} (f : α → β) : Notice α → Notice β
  | pending => pending
  | closed => closed
  | changed value => changed (f value)

namespace Channel

variable {α : Type}

def set (c : Channel α) (value : α) : Channel α :=
  ⟨value, c.version + 1⟩

def subscribe (c : Channel α) : Receiver :=
  ⟨c.version⟩

def isNewTo (c : Channel α) (r : Receiver) : Bool :=
  r.seen != c.version

/-- What a receiver learns, and the receiver afterwards. A value that was not seen is told before
the end of the channel. -/
def poll (c : Channel α) (isOpen : Bool) (r : Receiver) : Notice α × Receiver :=
  if c.isNewTo r then (.changed c.value, c.subscribe)
  else if isOpen then (.pending, r)
  else (.closed, r)

@[simp]
theorem isNewTo_subscribe (c : Channel α) : c.isNewTo c.subscribe = false := by
  simp [isNewTo, subscribe]

@[simp]
theorem value_set (c : Channel α) (value : α) : (c.set value).value = value := rfl

end Channel

end TypedPreferences
