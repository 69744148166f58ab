/-! Maps from texts to values, kept in the order of the texts, and sets of texts. Two maps with the
same entries are equal. -/

namespace TypedPreferences

/-- Entries by key, in strictly ascending order of the keys. -/
structure SortedMap (β : Type) where
  entries : List (String × β)
  ascending : entries.Pairwise (·.1 < ·.1)

namespace SortedMap

variable {β : Type}

def empty : SortedMap β := ⟨[], List.Pairwise.nil⟩

instance : Inhabited (SortedMap β) := ⟨empty⟩

def insertEntry (key : String) (value : β) : List (String × β) → List (String × β)
  | [] => [(key, value)]
  | e :: rest =>
    if key < e.1 then (key, value) :: e :: rest
    else if key = e.1 then (key, value) :: rest
    else e :: insertEntry key value rest

theorem mem_insertEntry {key : String} {value : β} {l : List (String × β)} {e : String × β}
    (h : e ∈ insertEntry key value l) :
    e = (key, value) ∨ e ∈ l := by
  induction l with
  | nil => simpa [insertEntry] using h
  | cons a rest ih =>
    simp only [insertEntry] at h
    split at h
    · simpa using h
    · split at h
      · rcases List.mem_cons.1 h with h | h
        · exact .inl h
        · exact .inr (List.mem_cons_of_mem _ h)
      · rcases List.mem_cons.1 h with h | h
        · exact .inr (h ▸ List.mem_cons_self)
        · exact (ih h).imp_right (List.mem_cons_of_mem _)

theorem ascending_insertEntry (key : String) (value : β) {l : List (String × β)}
    (h : l.Pairwise (·.1 < ·.1)) :
    (insertEntry key value l).Pairwise (·.1 < ·.1) := by
  induction l with
  | nil => simp [insertEntry]
  | cons a rest ih =>
    obtain ⟨ha, hrest⟩ := List.pairwise_cons.1 h
    simp only [insertEntry]
    split
    · refine List.pairwise_cons.2 ⟨fun e he => ?_, h⟩
      rcases List.mem_cons.1 he with rfl | he
      · assumption
      · exact String.lt_trans ‹key < a.1› (ha e he)
    · split
      · exact List.pairwise_cons.2 ⟨fun e he => by simpa [‹key = a.1›] using ha e he, hrest⟩
      · refine List.pairwise_cons.2 ⟨fun e he => ?_, ih hrest⟩
        rcases mem_insertEntry he with rfl | he
        · grind
        · exact ha e he

def insert (m : SortedMap β) (key : String) (value : β) : SortedMap β :=
  ⟨insertEntry key value m.entries, ascending_insertEntry key value m.ascending⟩

def erase (m : SortedMap β) (key : String) : SortedMap β :=
  ⟨m.entries.filter (·.1 != key), m.ascending.filter _⟩

def get? (m : SortedMap β) (key : String) : Option β :=
  (m.entries.find? (·.1 == key)).map (·.2)

def contains (m : SortedMap β) (key : String) : Bool :=
  (m.get? key).isSome

def keys (m : SortedMap β) : List String :=
  m.entries.map (·.1)

def size (m : SortedMap β) : Nat :=
  m.entries.length

/-- The map with the given entries; of two with one key the later counts. -/
def ofList (entries : List (String × β)) : SortedMap β :=
  entries.foldl (fun m e => m.insert e.1 e.2) empty

@[simp]
theorem get?_empty (key : String) : (empty : SortedMap β).get? key = none := rfl

theorem find?_insertEntry (key key' : String) (value : β) (l : List (String × β)) :
    ((insertEntry key value l).find? (·.1 == key')).map (·.2) =
      if key' = key then some value else (l.find? (·.1 == key')).map (·.2) := by
  induction l with
  | nil => by_cases h : key' = key <;> grind [insertEntry]
  | cons a rest ih =>
    by_cases h : key' = key <;> simp only [insertEntry] <;> grind

@[simp]
theorem get?_insert (m : SortedMap β) (key key' : String) (value : β) :
    (m.insert key value).get? key' = if key' = key then some value else m.get? key' :=
  find?_insertEntry key key' value m.entries

@[simp]
theorem get?_erase (m : SortedMap β) (key key' : String) :
    (m.erase key).get? key' = if key' = key then none else m.get? key' := by
  simp only [erase, get?, List.find?_filter]
  split
  · rename_i h
    simp [h]
  · congr 2
    funext e
    by_cases h : e.1 = key' <;> grind

/-- What lies above a key is not found under it. -/
theorem find?_eq_none_of_above {l : List (String × β)} {key : String} (h : ∀ e ∈ l, key < e.1) :
    l.find? (·.1 == key) = none := by
  rw [List.find?_eq_none]
  intro e he heq
  have hlt := h e he
  rw [beq_iff_eq.1 heq] at hlt
  exact String.lt_irrefl key hlt

theorem not_lt_of_find?_eq {a b : String × β} {l m : List (String × β)}
    (hm : ∀ e ∈ m, b.1 < e.1)
    (h : ((a :: l).find? (·.1 == a.1)).map (·.2) = ((b :: m).find? (·.1 == a.1)).map (·.2)) :
    ¬a.1 < b.1 := by
  intro hlt
  have habove : ∀ e ∈ b :: m, a.1 < e.1 := by
    intro e he
    rcases List.mem_cons.1 he with rfl | he
    · exact hlt
    · exact String.lt_trans hlt (hm e he)
  rw [find?_eq_none_of_above habove] at h
  simp at h

/-- Entries in ascending order are determined by what is found under each key. -/
theorem eq_of_find?_eq {l m : List (String × β)} (hl : l.Pairwise (·.1 < ·.1))
    (hm : m.Pairwise (·.1 < ·.1))
    (h : ∀ k, (l.find? (·.1 == k)).map (·.2) = (m.find? (·.1 == k)).map (·.2)) : l = m := by
  induction l generalizing m with
  | nil =>
    cases m with
    | nil => rfl
    | cons b rest => simpa using h b.1
  | cons a l ih =>
    obtain ⟨hal, hl⟩ := List.pairwise_cons.1 hl
    cases m with
    | nil => simpa using h a.1
    | cons b m =>
      obtain ⟨hbm, hm⟩ := List.pairwise_cons.1 hm
      -- Neither first key is below the other, so they are the same.
      have hkey : a.1 = b.1 := by
        rcases Std.lt_trichotomy a.1 b.1 with hlt | heq | hlt
        · exact absurd hlt (not_lt_of_find?_eq hbm (h a.1))
        · exact heq
        · exact absurd hlt (not_lt_of_find?_eq hal (h b.1).symm)
      have hvalue : a.2 = b.2 := by
        have ha := h a.1
        simpa [hkey] using ha
      have hrest : l = m := by
        apply ih hl hm
        intro k
        by_cases hk : k = a.1
        · subst hk
          rw [find?_eq_none_of_above hal, find?_eq_none_of_above (hkey ▸ hbm)]
        · have hne : (a.1 == k) = false := beq_eq_false_iff_ne.2 (Ne.symm hk)
          have hne' : (b.1 == k) = false := hkey ▸ hne
          have hk' := h k
          rw [List.find?_cons, hne, List.find?_cons, hne'] at hk'
          exact hk'
      rw [Prod.ext hkey hvalue, hrest]

theorem ext_get? {m n : SortedMap β} (h : ∀ key, m.get? key = n.get? key) : m = n := by
  obtain ⟨l, hl⟩ := m
  obtain ⟨l', hl'⟩ := n
  have hentries : l = l' := eq_of_find?_eq hl hl' h
  subst hentries
  rfl

end SortedMap

abbrev TextSet := SortedMap Unit

namespace TextSet

def ofTexts (texts : List String) : TextSet :=
  SortedMap.ofList (texts.map (·, ()))

def texts (s : TextSet) : List String :=
  SortedMap.keys s

end TextSet

end TypedPreferences
