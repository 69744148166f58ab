import Mathlib.Data.List.Forall2
import TypedPreferences.Packed.Structured
import TypedPreferences.Proofs.Packed.Packing

/-! Records are read back from their packed form when each of their fields is. -/

namespace TypedPreferences

namespace Packed

/-- A record of some schemas: the same names in the same order, and values that are read back from
their forms. -/
def ReadsBack (schemas : List (String × Schema)) (fields : List (String × Tree)) : Prop :=
  List.Forall₂ (fun s f => s.1 = f.1 ∧ s.2.read? f.2.wire = some f.2) schemas fields

theorem ReadsBack.readFields {schemas : List (String × Schema)} {fields : List (String × Tree)}
    {found : List (String × Wire)} (h : ReadsBack schemas fields)
    (hfound : ∀ f ∈ fields, found.lookup f.1 = some f.2.wire) :
    readFields schemas found = some fields := by
  induction h with
  | nil => rw [Packed.readFields]
  | @cons s f _ _ hfirst _ ih =>
    obtain ⟨name, schema⟩ := s
    obtain ⟨rfl, hread⟩ := hfirst
    have hlookup := hfound f List.mem_cons_self
    have hrest := ih fun f hf => hfound f (List.mem_cons_of_mem _ hf)
    unfold Packed.readFields
    rw [hlookup]
    simp only [hread, hrest, Option.bind_eq_bind, Option.bind_some, Option.pure_def]

end Packed

open Packed

end TypedPreferences
