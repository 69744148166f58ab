import Mathlib.Data.List.Basic

/-! Texts as bytes. -/

namespace TypedPreferences.Text

theorem toList_loop (bytes : ByteArray) (i : Nat) (taken : List UInt8) :
    ByteArray.toList.loop bytes i taken = taken.reverse ++ bytes.data.toList.drop i := by
  fun_induction ByteArray.toList.loop bytes i taken with
  | case1 i taken hlt ih =>
    have hbyte : bytes.data.toList.drop i = bytes.get! i :: bytes.data.toList.drop (i + 1) := by
      have hlength : i < bytes.data.toList.length := hlt
      rw [List.drop_eq_getElem_cons hlength]
      simp [ByteArray.get!, hlt]
    rw [ih, hbyte, List.reverse_cons, List.append_assoc, List.singleton_append]
  | case2 i taken hge =>
    have hend : bytes.data.toList.drop i = [] := List.drop_of_length_le (Nat.not_lt.1 hge)
    rw [hend, List.append_nil]

theorem toList_eq_data (bytes : ByteArray) : bytes.toList = bytes.data.toList :=
  toList_loop bytes 0 []

theorem length_toUTF8 (text : String) : text.toUTF8.toList.length = text.utf8ByteSize := by
  rw [toList_eq_data, Array.length_toList]
  rfl

end TypedPreferences.Text
