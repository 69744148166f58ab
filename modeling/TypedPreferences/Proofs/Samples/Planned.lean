import TypedPreferences.Proofs.Fields.AllFields
import TypedPreferences.Samples.Declarations

/-! The layouts of the sample declarations are planned ones, so that what holds of planned layouts
holds of them. -/

namespace TypedPreferences.Samples

/-- A sample that can be planned has a planned layout. -/
theorem Sample.isPlanned {s : Sample} {plans : List (FieldKind × FieldPlan)}
    (h : (s.context.planDeclaration s.declaration).perform.1 = .ok plans) :
    s.layout.IsPlanned s.context s.declaration := by
  have hplans : s.plans = plans.map (·.2) := by
    rw [Sample.plans, h]
  have hlength : s.plans.length = s.fields.length := by
    obtain ⟨hmap, -⟩ := Context.planDeclaration_ok h
    have hcount := congrArg List.length hmap
    simpa [hplans, declaration] using hcount.symm
  refine ⟨plans, h, ?_⟩
  rw [layout, List.map_zipWith, ← hplans]
  -- Each plan meets one default, so none is dropped.
  calc List.zipWith (fun p _ => p) s.plans s.fields
      = (s.plans.zip s.fields).map (·.1) := by rw [List.zip, List.map_zipWith]
    _ = s.plans := List.map_fst_zip (Nat.le_of_eq hlength)

theorem isPlanned_of_mem {s : Sample} (h : s ∈ samples) :
    s.layout.IsPlanned s.context s.declaration := by
  have hplans : ∃ plans, (s.context.planDeclaration s.declaration).perform.1 = .ok plans := by
    simp only [samples, List.mem_cons, List.not_mem_nil, or_false] at h
    -- Planning a sample is computed.
    rcases h with rfl | rfl | rfl | rfl | rfl | rfl <;> exact ⟨_, rfl⟩
  obtain ⟨plans, hok⟩ := hplans
  exact Sample.isPlanned hok

theorem isPlanned_primitiveData :
    primitiveData.layout.IsPlanned primitiveData.context primitiveData.declaration :=
  isPlanned_of_mem List.mem_cons_self

end TypedPreferences.Samples
