import TypedPreferences.Derive.Ordinals

/-! The ordinals of an enumeration number its entries from zero: an ordinal leads to the entry at
its place, and the ordinal of an entry leads back to it. -/

namespace TypedPreferences.Ordinals

theorem find?_zipIdx (l : List String) (k : Nat) (ordinal : Int) :
    ((l.zipIdx k).find? fun e => (e.2 : Int) == ordinal).map (·.1) =
      if ordinal < k then none else l[(ordinal - k).toNat]? := by
  induction l generalizing k with
  | nil => simp
  | cons a rest ih =>
    rw [List.zipIdx_cons, List.find?_cons]
    by_cases hk : (k : Int) = ordinal
    -- The first entry has the number; otherwise the search goes on from the next one.
    · subst hk
      simp
    · rw [beq_eq_false_iff_ne.2 hk]
      dsimp only
      rw [ih]
      by_cases hlt : ordinal < k
      · rw [if_pos (by omega), if_pos hlt]
      · have hnext : (ordinal - k).toNat = (ordinal - (k + 1 : Nat)).toNat + 1 := by omega
        rw [if_neg (by omega), if_neg hlt, hnext, List.getElem?_cons_succ]

/-- An ordinal leads to the entry at its place; there is none before the first. -/
theorem ofOrdinal?_eq (o : Ordinals) (ordinal : Int) :
    o.ofOrdinal? ordinal = if ordinal < 0 then none else o.entries[ordinal.toNat]? := by
  rw [ofOrdinal?, numbered, find?_zipIdx, Int.natCast_zero, Int.sub_zero]

theorem lookup_zipIdx {l : List String} (h : l.Nodup) (k : Nat) {i : Nat} (hi : i < l.length) :
    (l.zipIdx k).lookup l[i] = some (k + i) := by
  induction l generalizing k i with
  | nil => exact absurd hi (Nat.not_lt_zero i)
  | cons a rest ih =>
    obtain ⟨hnot, hrest⟩ := List.nodup_cons.1 h
    rw [List.zipIdx_cons]
    cases i with
    | zero => simp
    | succ i =>
      have hi' : i < rest.length := Nat.lt_of_succ_lt_succ hi
      -- The entry differs from the first, so the lookup does not stop there.
      have hne : (rest[i] == a) = false :=
        beq_eq_false_iff_ne.2 fun heq => hnot (heq ▸ List.getElem_mem hi')
      rw [List.getElem_cons_succ, List.lookup_cons, hne]
      dsimp only
      rw [ih hrest (k + 1) hi']
      congr 1
      omega

theorem ordinal?_getElem (o : Ordinals) (h : o.entries.Nodup) {i : Nat}
    (hi : i < o.entries.length) : o.ordinal? o.entries[i] = some i := by
  rw [ordinal?, numbered, lookup_zipIdx h 0 hi, Nat.zero_add]

end TypedPreferences.Ordinals
