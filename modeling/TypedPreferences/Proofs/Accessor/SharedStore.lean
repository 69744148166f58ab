import TypedPreferences.Proofs.Accessor.Apart
import TypedPreferences.Proofs.Fields.Settling
import TypedPreferences.Proofs.Fields.Snapshots

/-! The store that all accessors of a declaration share. Whatever is done at the benches, it keeps for
every field the value that was set last, by whichever editor, and reading it changes no value that is
read from it. -/

namespace TypedPreferences

namespace IsLastSet

variable {α : Type} {name : String} {sets : List (String × α)}

theorem eq_of_concat {value last : α} (h : IsLastSet (sets ++ [(name, last)]) name value) :
    value = last := by
  obtain ⟨earlier, later, hsplit, hlater⟩ := h
  rcases List.eq_nil_or_concat later with rfl | ⟨front, set, rfl⟩
  · obtain ⟨-, hset⟩ := List.append_inj' hsplit rfl
    obtain ⟨-, rfl⟩ := Prod.mk.inj (List.singleton_inj.1 hset)
    rfl
  · -- Then the last set would be a later one of the name.
    rw [List.concat_eq_append, ← List.cons_append, ← List.append_assoc] at hsplit
    obtain ⟨-, hset⟩ := List.append_inj' hsplit rfl
    obtain rfl := List.singleton_inj.1 hset
    simp at hlater

theorem of_concat_of_ne {value last : α} {other : String} (hne : other ≠ name)
    (h : IsLastSet (sets ++ [(other, last)]) name value) : IsLastSet sets name value := by
  obtain ⟨earlier, later, hsplit, hlater⟩ := h
  rcases List.eq_nil_or_concat later with rfl | ⟨front, set, rfl⟩
  · obtain ⟨-, hset⟩ := List.append_inj' hsplit rfl
    obtain ⟨hname, -⟩ := Prod.mk.inj (List.singleton_inj.1 hset)
    exact absurd hname hne
  · rw [List.concat_eq_append, ← List.cons_append, ← List.append_assoc] at hsplit
    obtain ⟨rfl, -⟩ := List.append_inj' hsplit rfl
    rw [List.concat_eq_append, List.map_append, List.mem_append, not_or] at hlater
    exact ⟨earlier, front, rfl, hlater.1⟩

end IsLastSet

variable {F : Type}

namespace Layout

variable (l : Layout F)

/-- The value of a field in a store. -/
def valueIn (f : LiveField F) (s : Store) : Datum F :=
  (l.meaning.decode f.plan f.default ⟨s, []⟩).1

theorem decode_eq_valueIn (f : LiveField F) {s : Shelf} {t : Store}
    (hentry : s.store.get? f.name = t.get? f.name) :
    (l.meaning.decode f.plan f.default s).1 = l.valueIn f t :=
  (l.meaning.confined_decode f.plan f.default).result s ⟨t, []⟩ hentry

/-- A store remembers what was set since it was some other store: a field for which nothing was set
has the value that it had there, and any other field has the value that it has once its last value was
written. -/
def Remembers (first : Store) (sets : List (String × Datum F)) (now : Store) : Prop :=
  ∀ f ∈ l.fields,
    (f.name ∉ sets.map (·.1) → l.valueIn f now = l.valueIn f first) ∧
      ∀ value, IsLastSet sets f.name value →
        ∃ s, l.valueIn f now = l.valueIn f (l.encode f.name value s).store

variable {l} {c : Context} {d : Declaration} {first now after : Store}
variable {sets more : List (String × Datum F)}

theorem Remembers.refl (l : Layout F) (first : Store) : l.Remembers first [] first := by
  refine fun f _ => ⟨fun _ => rfl, fun value hlast => ?_⟩
  cases hlast.mem

theorem Remembers.set (h : l.Remembers first sets now) (field : String) (value : Datum F)
    (warnings : List Warning) :
    l.Remembers first (sets ++ [(field, value)]) (l.encode field value ⟨now, warnings⟩).store := by
  intro f hf
  by_cases hfield : field = f.name
  · subst hfield
    refine ⟨fun hnot => ?_, fun last hlast => ?_⟩
    · simp at hnot
    · rw [hlast.eq_of_concat]
      exact ⟨⟨now, warnings⟩, rfl⟩
  · have hkept : l.valueIn f (l.encode field value ⟨now, warnings⟩).store = l.valueIn f now :=
      l.decode_eq_valueIn f (l.encode_frame field value ⟨now, warnings⟩ (Ne.symm hfield))
    obtain ⟨hunset, hset⟩ := h f hf
    rw [hkept]
    refine ⟨fun hnot => hunset fun hmem => hnot ?_, fun last hlast => ?_⟩
    · rw [List.map_append]
      exact List.mem_append_left _ hmem
    · exact hset last (hlast.of_concat_of_ne hfield)

end Layout

namespace Office

variable {layouts : String → Layout F} {o o' : Office F} {w : Space F} {id : String}

/-- Every bench is one of its declaration. -/
def Placed (layouts : String → Layout F) (o : Office F) : Prop :=
  ∀ id, (o.bench id).Placed (layouts id) id (fun _ => True) o.space

theorem Placed.use? (h : o.Placed layouts) {task : Task F}
    (hu : o.use? layouts id task = some o') :
    o.space.Moves (layouts id) id (fun _ => True) task.sets o'.space ∧ o'.Placed layouts := by
  obtain ⟨b, w, hb, rfl⟩ := use?_eq_some.1 hu
  obtain ⟨hmoves, hplaced⟩ := (h id).use? (fun _ _ => trivial) hb
  refine ⟨hmoves, fun other => ?_⟩
  dsimp only
  split
  · rename_i hsame
    rw [hsame]
    exact hplaced
  · exact (h other).mono hmoves.handles hmoves.length fun _ _ htrue => htrue

end Office

end TypedPreferences
