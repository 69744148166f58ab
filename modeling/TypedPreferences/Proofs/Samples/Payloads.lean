import TypedPreferences.Proofs.Samples.Edited

/-! Structured values in stores. A value that is written is read back from its packed bytes, what
cannot be read counts as missing, and a fault changes nothing. -/

namespace TypedPreferences

open Packed

namespace Packed

end Packed

namespace Structured

variable (t : Structured) (s : Store) (key : String)

theorem decode_eq_none_iff : (t.decode s key).1 = none ↔
    t.tryDecode s key = .ok none ∨ ∃ fault, t.tryDecode s key = .error fault := by
  rw [decode]
  cases h : t.tryDecode s key with
  | ok value => simp
  | error fault => simp

end Structured

namespace Samples

end Samples

end TypedPreferences
