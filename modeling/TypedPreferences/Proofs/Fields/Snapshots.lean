import TypedPreferences.Fields.Layout

/-! Snapshots whose values are set one after another. The names stay, and a name has the value that
was set last for it. -/

namespace TypedPreferences

/-- A value is the one that was set last for a name. -/
def IsLastSet {α : Type} (sets : List (String × α)) (name : String) (value : α) : Prop :=
  ∃ earlier later, sets = earlier ++ (name, value) :: later ∧ name ∉ later.map (·.1)

namespace IsLastSet

variable {α : Type} {name : String} {sets : List (String × α)}

theorem mem {value : α} (h : IsLastSet sets name value) : (name, value) ∈ sets := by
  obtain ⟨earlier, later, rfl, -⟩ := h
  exact List.mem_append_right _ List.mem_cons_self

theorem exists_of_mem (h : name ∈ sets.map (·.1)) : ∃ value, IsLastSet sets name value := by
  induction sets with
  | nil => cases h
  | cons set rest ih =>
    obtain ⟨first, value⟩ := set
    by_cases hrest : name ∈ rest.map (·.1)
    · obtain ⟨last, earlier, later, hsplit, hlater⟩ := ih hrest
      exact ⟨last, (first, value) :: earlier, later, congrArg _ hsplit, hlater⟩
    · have hname : name = first := (List.mem_cons.1 h).resolve_right hrest
      exact ⟨value, [], rest, by rw [hname]; rfl, hrest⟩

end IsLastSet

namespace Snapshot

variable {F : Type} (s : Snapshot F)

/-- Sets values one after another. -/
def setAll (sets : List (String × Datum F)) : Snapshot F :=
  sets.foldl (fun values set => values.set set.1 set.2) s

theorem setAll_append (sets more : List (String × Datum F)) :
    s.setAll (sets ++ more) = (s.setAll sets).setAll more :=
  List.foldl_append

@[simp]
theorem names_set (name : String) (value : Datum F) :
    (s.set name value).map (·.1) = s.map (·.1) := by
  rw [set, List.map_map]
  apply List.map_congr_left
  intro e _
  by_cases h : (e.1 == name) = true
  · rw [Function.comp, if_pos h]
    exact (eq_of_beq h).symm
  · rw [Function.comp, if_neg h]

theorem names_setAll (sets : List (String × Datum F)) :
    (s.setAll sets).map (·.1) = s.map (·.1) := by
  induction sets generalizing s with
  | nil => rfl
  | cons set rest ih => exact (ih (s.set set.1 set.2)).trans (s.names_set set.1 set.2)

theorem value?_set_of_ne {name key : String} (hkey : key ≠ name) (value : Datum F) :
    (s.set name value).value? key = s.value? key := by
  induction s with
  | nil => rfl
  | cons e rest ih =>
    obtain ⟨first, old⟩ := e
    rw [set, List.map_cons, value?, value?, List.lookup_cons]
    by_cases hfirst : (first == name) = true
    · have hname : first = name := eq_of_beq hfirst
      have hne : (key == name) = false := beq_false_of_ne hkey
      rw [if_pos hfirst, List.lookup_cons, hname, hne]
      exact ih
    · rw [if_neg hfirst, List.lookup_cons]
      cases key == first with
      | true => rfl
      | false => exact ih

theorem value?_set_self {name : String} (hname : name ∈ s.map (·.1)) (value : Datum F) :
    (s.set name value).value? name = some value := by
  induction s with
  | nil => cases hname
  | cons e rest ih =>
    obtain ⟨first, old⟩ := e
    rw [set, List.map_cons, value?]
    by_cases hfirst : (first == name) = true
    · rw [if_pos hfirst, List.lookup_cons_self]
    · have hne : name ≠ first := fun h => hfirst (beq_iff_eq.2 h.symm)
      have hrest : name ∈ rest.map (·.1) := (List.mem_cons.1 hname).resolve_left hne
      rw [if_neg hfirst, List.lookup_cons, beq_false_of_ne hne]
      exact ih hrest

theorem value?_setAll_of_not_mem {sets : List (String × Datum F)} {key : String}
    (hkey : key ∉ sets.map (·.1)) : (s.setAll sets).value? key = s.value? key := by
  induction sets generalizing s with
  | nil => rfl
  | cons set rest ih =>
    rw [List.map_cons, List.mem_cons, not_or] at hkey
    exact (ih (s.set set.1 set.2) hkey.2).trans (s.value?_set_of_ne hkey.1 set.2)

/-- A name has the value that was set last for it. -/
theorem value?_setAll_last {name : String} (hname : name ∈ s.map (·.1))
    {sets : List (String × Datum F)} {value : Datum F} (hlast : IsLastSet sets name value) :
    (s.setAll sets).value? name = some value := by
  obtain ⟨earlier, later, rfl, hlater⟩ := hlast
  have hmem : name ∈ (s.setAll earlier).map (·.1) := (s.names_setAll earlier).symm ▸ hname
  rw [setAll_append]
  exact (value?_setAll_of_not_mem _ hlater).trans ((s.setAll earlier).value?_set_self hmem value)

/-- Snapshots of the same names are equal when they have the same values. -/
theorem ext_value? {s t : Snapshot F} (hnames : s.map (·.1) = t.map (·.1))
    (hnodup : (s.map (·.1)).Nodup) (h : ∀ key ∈ s.map (·.1), s.value? key = t.value? key) :
    s = t := by
  induction s generalizing t with
  | nil => exact (List.map_eq_nil_iff.1 hnames.symm).symm
  | cons e rest ih =>
    cases t with
    | nil => cases hnames
    | cons g more =>
      obtain ⟨name, value⟩ := e
      obtain ⟨other, found⟩ := g
      obtain ⟨hname, hrest⟩ := List.cons.inj hnames
      obtain ⟨hnot, hnodup⟩ := List.nodup_cons.1 hnodup
      obtain rfl : name = other := hname
      have hvalue := h name List.mem_cons_self
      rw [value?, value?, List.lookup_cons_self, List.lookup_cons_self] at hvalue
      obtain rfl := Option.some.inj hvalue
      refine congrArg _ (ih hrest hnodup ?_)
      intro key hkey
      -- The first name is none of the others, so it hides none of their values.
      have hne : key ≠ name := fun heq => hnot (heq ▸ hkey)
      have hboth := h key (List.mem_cons_of_mem _ hkey)
      rw [value?, value?, List.lookup_cons, List.lookup_cons, beq_false_of_ne hne] at hboth
      exact hboth

end Snapshot

end TypedPreferences
