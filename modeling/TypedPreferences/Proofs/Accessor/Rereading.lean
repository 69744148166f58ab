import TypedPreferences.Proofs.Accessor.FirstRead
import TypedPreferences.Proofs.Fields.Settling

/-! What a second accessor of a store shows once a first one has read it: the same snapshot, and it
leaves all stores as they are. -/

namespace TypedPreferences

namespace Engine

theorem setStore_store (e : Engine) (id : String) (s : Store) :
    (e.setStore id s).setStore id s = e.setStore id s := by
  apply SortedMap.ext_get?
  intro key
  simp only [setStore, SortedMap.get?_insert]
  split <;> rfl

end Engine

namespace Accessor

variable {F : Type} {l : Layout F} {c : Context} {d : Declaration}

theorem second_get (h : l.IsPlanned c d) (hdefaults : l.DefaultsReturn c d) (w : Space F)
    (space : String) :
    let fresh : Accessor F := { layout := l, space }
    let after := (fresh.get w).2.2
    (fresh.get after).1.value = (fresh.get w).1.value ∧
      (fresh.get after).2.2.engine = after.engine := by
  intro fresh after
  have hengine : after.engine = w.engine.setStore space (l.decode (w.shelf space)).2.store :=
    get_engine_fresh l space w
  -- What the first accessor put back is what the second one reads.
  have hstore : (after.shelf space).store = (l.decode (w.shelf space)).2.store := by
    change after.engine.store space = _
    rw [hengine, Engine.store_setStore, if_pos rfl]
  have hagain := h.decode_again_store hstore
  refine ⟨?_, ?_⟩
  · rw [get_value_fresh, get_value_fresh]
    exact h.decode_again_values hdefaults hstore
  · rw [get_engine_fresh, hagain, hstore, hengine, Engine.setStore_store]

end Accessor

end TypedPreferences
