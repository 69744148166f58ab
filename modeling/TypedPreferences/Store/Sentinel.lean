import TypedPreferences.Store.Stored

/-! The reserved values that stand for a missing number: the least whole numbers, and two quiet NaNs
with a payload of their own. -/

namespace TypedPreferences.Primitive

def sentinel? : (kind : Primitive) → Option kind.Value
  | .integer => some Int32.minValue
  | .long => some Int64.minValue
  | .float => some (⟨0x7fc55a5a⟩ : Binary32)
  | .double => some (⟨0x7ff85a5a5a5a5a5a⟩ : Binary64)
  | _ => none

/-- Whether a value is the reserved one of its kind; floating-point numbers are compared by their
bits. -/
def isSentinel : (kind : Primitive) → kind.Value → Bool
  | .integer => fun (v : Int32) => v == Int32.minValue
  | .long => fun (v : Int64) => v == Int64.minValue
  | .float => fun (v : Binary32) => v.bits == 0x7fc55a5a
  | .double => fun (v : Binary64) => v.bits == 0x7ff85a5a5a5a5a5a
  | _ => fun _ => false

end TypedPreferences.Primitive
