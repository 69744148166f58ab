import TypedPreferences.Text.Case

/-! Characters of lower-case forms. One that comes before the small letters is its own form and no
other's, and the form of an ASCII character is an ASCII character that is not upper-case. -/

namespace TypedPreferences.Text

theorem toNat_ofNat {n : Nat} (h : n.isValidChar) : (Char.ofNat n).toNat = n := by
  rw [Char.ofNat, dif_pos h]
  rfl

/-- What holds of each of the 128 ASCII characters holds of a character below 128. -/
theorem of_ascii (P : Char → Prop) (h : ∀ n : Fin 128, P (Char.ofNat n)) {c : Char}
    (hc : c.val < 128) : P c := by
  have hchar := h ⟨c.toNat, hc⟩
  rwa [Char.ofNat_toNat] at hchar

theorem toLower_eq_self {c : Char} (hc : c.val < 128) (h : c.toLower.toNat < 97) :
    c.toLower = c :=
  of_ascii (fun c => c.toLower.toNat < 97 → c.toLower = c) (by decide) hc h

theorem isUpper_toLower {c : Char} (hc : c.val < 128) : isUpper c.toLower = false :=
  of_ascii (fun c => isUpper c.toLower = false) (by decide) hc

/-- The shifts lead to numbers of characters, and to none before the small letters. -/
theorem lowerShifts_valid :
    (lowerShifts.all fun (lo, hi, _, shift) =>
      decide ((97 ≤ lo + shift ∧ hi + shift < 0xd800) ∨
        (0xdfff < lo + shift ∧ hi + shift < 0x110000))) = true := by
  decide +kernel

/-- A character before the small letters stands in no lower-case form but its own. -/
theorem eq_of_mem_toLower {c d : Char} (hd : d.toNat < 97) (h : d ∈ toLower c) : c = d := by
  unfold toLower at h
  -- An ASCII character, the capital I with a dot, a character with a shift, and any other.
  split at h
  · rename_i hascii
    rw [List.mem_singleton.1 h] at hd ⊢
    exact (toLower_eq_self hascii hd).symm
  split at h
  · rcases List.mem_cons.1 h with rfl | hdot
    · exact absurd hd (by decide)
    · rw [List.mem_singleton.1 hdot] at hd
      exact absurd hd (by decide)
  split at h
  · rename_i lo hi step shift hfound
    have hvalid := List.all_eq_true.1 lowerShifts_valid _ (List.mem_of_find?_eq_some hfound)
    have hruns := List.find?_some hfound
    simp only [inRuns, List.any_cons, List.any_nil, Bool.or_false, Bool.and_eq_true,
      decide_eq_true_eq] at hvalid hruns
    have hchar : (Int.toNat (c.toNat + shift)).isValidChar := by
      rw [Nat.isValidChar]
      omega
    rw [List.mem_singleton.1 h, toNat_ofNat hchar] at hd
    omega
  · exact (List.mem_singleton.1 h).symm

theorem toLower_ne_nil (c : Char) : toLower c ≠ [] := by
  unfold toLower
  split
  · exact List.cons_ne_nil _ _
  split
  · exact List.cons_ne_nil _ _
  split
  · exact List.cons_ne_nil _ _
  · exact List.cons_ne_nil _ _

end TypedPreferences.Text
