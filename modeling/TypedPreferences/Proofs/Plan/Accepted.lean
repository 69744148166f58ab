import TypedPreferences.Plan.Build

/-! What is known of a declaration once it was planned: its fields have names of their own, and the
plan of each is the one that its kind gives. -/

namespace TypedPreferences

def FieldPlan.ofKind (field : Field) (kind : FieldKind) : FieldPlan :=
  ⟨field, decodeSteps field kind, encodeSteps field kind⟩

/-- All that is known of a pair that was found: each of the two functions is the first that fits,
the value between them has a kind, and it may be missing only where the store tells so. -/
theorem Registry.find_ok {r : Registry} {target : TypeRef} {declaration field : String}
    {pair : ConverterPair} (h : r.find target declaration field = .ok (some pair)) :
    r.encoderFor? target = some pair.encoder ∧
      r.decoderFor? target pair.encoder = some pair.decoder ∧
      pair.encoder.output.primitive? = some pair.primitive ∧
      (pair.nullableIntermediate = true → pair.primitive.isExistenceChecked = true) := by
  unfold find at h
  split at h
  · cases h
  · rename_i encoder hencoder
    split at h
    · cases h
    · rename_i decoder hdecoder
      split at h
      · cases h
      · rename_i primitive hprimitive
        split at h
        · cases h
        · rename_i hguard
          cases h
          refine ⟨hencoder, hdecoder, hprimitive, fun hnullable => ?_⟩
          -- The last check refuses optional values between the two in all other kinds.
          change encoder.output.nullable = true at hnullable
          simpa [hnullable] using hguard

/-- One work after another: a failure ends both, and what was reported before it stays. -/
theorem Work.run_bind {α β : Type} (w : Work α) (f : α → Work β) (events : Array Event) :
    (w >>= f).run.run events =
      match w.run.run events with
      | (.ok a, after) => (f a).run.run after
      | (.error fault, after) => (.error fault, after) := by
  rw [ExceptT.run_bind, StateT.run_bind]
  rcases w.run.run events with ⟨_ | a, after⟩ <;> rfl

namespace Context

variable {c : Context} {declaration : String}

theorem find_of_kindOf {field : Field} {pair : ConverterPair}
    (h : c.kindOf declaration field = .ok (.converted pair)) :
    c.registry.find field.type declaration field.name = .ok (some pair) := by
  unfold kindOf at h
  generalize (if field.type.args.isEmpty then field.type.name? else none) = plain at h
  -- The four checks of the field come first, then what its type is known as.
  split at h
  · cases h
  split at h
  · cases h
  split at h
  · cases h
  split at h
  · cases h
  split at h
  · cases h
  dsimp only at h
  split at h
  · cases h
  split at h
  · cases h
  split at h
  · cases h
  · rename_i found hfound
    cases h
    exact hfound
  · cases h

theorem planOf_eq_ok {field : Field} {kind : FieldKind} {plan : FieldPlan} :
    c.planOf declaration field = .ok (kind, plan) ↔
      c.kindOf declaration field = .ok kind ∧ plan = .ofKind field kind := by
  unfold planOf
  cases c.kindOf declaration field with
  | error fault => simp [Except.map]
  | ok found =>
    simp only [Except.map, Except.ok.injEq, Prod.mk.injEq]
    constructor
    · rintro ⟨rfl, rfl⟩
      exact ⟨rfl, rfl⟩
    · rintro ⟨rfl, rfl⟩
      exact ⟨rfl, rfl⟩

theorem planField_run (field : Field) (events : Array Event) :
    (c.planField declaration field).run.run events =
      match c.planOf declaration field with
      | .error fault => (.error fault, events)
      | .ok plan =>
        (.ok plan, events.push
          (.plannedField declaration field.name plan.1.label field.persistDefault)) := by
  unfold planField
  cases c.planOf declaration field <;> rfl

theorem planFields_cons {seen : List String} {field : Field} (rest : List Field)
    (hseen : seen.contains field.name = false) (events : Array Event) :
    (c.planFields declaration seen (field :: rest)).run.run events =
      match c.planOf declaration field with
      | .error fault => (.error fault, events)
      | .ok plan =>
        let after := (c.planFields declaration (field.name :: seen) rest).run.run
          (events.push (.plannedField declaration field.name plan.1.label field.persistDefault))
        (after.1.map (plan :: ·), after.2) := by
  rw [planFields, hseen, if_neg Bool.false_ne_true, Work.run_bind, planField_run]
  cases c.planOf declaration field with
  | error fault => rfl
  | ok plan =>
    dsimp only
    rw [Work.run_bind]
    rcases (c.planFields declaration (field.name :: seen) rest).run.run _ with ⟨_ | plans, after⟩
      <;> rfl

/-- Planning fields after some names succeeds only when each field can be planned by itself, and no
name comes twice. -/
theorem planFields_ok {seen : List String} {fields : List Field}
    {plans : List (FieldKind × FieldPlan)} {events events' : Array Event}
    (h : (c.planFields declaration seen fields).run.run events = (.ok plans, events')) :
    fields.map (c.planOf declaration) = plans.map .ok ∧ (fields.map (·.name)).Nodup ∧
      ∀ f ∈ fields, f.name ∉ seen := by
  induction fields generalizing seen plans events with
  | nil =>
    cases h
    exact ⟨rfl, List.nodup_nil, fun f hf => absurd hf List.not_mem_nil⟩
  | cons field rest ih =>
    cases hseen : seen.contains field.name with
    | true =>
      rw [planFields, hseen, if_pos rfl] at h
      cases h
    | false =>
      rw [planFields_cons rest hseen] at h
      -- A fault of this field, or of a later one, would be the outcome of the whole.
      cases hplan : c.planOf declaration field with
      | error fault =>
        rw [hplan] at h
        cases h
      | ok plan =>
        rw [hplan] at h
        dsimp only at h
        rcases hrest : (c.planFields declaration (field.name :: seen) rest).run.run
          (events.push (.plannedField declaration field.name plan.1.label field.persistDefault))
          with ⟨_ | others, after⟩
        · rw [hrest] at h
          cases h
        · rw [hrest] at h
          cases h
          obtain ⟨hplans, hnodup, hnew⟩ := ih hrest
          have hfirst : field.name ∉ seen := by simpa using hseen
          refine ⟨?_, ?_, ?_⟩
          · rw [List.map_cons, List.map_cons, hplan, hplans]
          -- The rest was planned with this name among those seen, so it does not come again.
          · refine List.nodup_cons.2 ⟨fun hmem => ?_, hnodup⟩
            obtain ⟨f, hf, hname⟩ := List.mem_map.1 hmem
            exact hnew f hf (hname ▸ List.mem_cons_self)
          · intro f hf
            rcases List.mem_cons.1 hf with rfl | hf
            · exact hfirst
            · exact fun hmem => hnew f hf (List.mem_cons_of_mem _ hmem)

/-- The plans of a declaration are those of its fields, whatever is reported while planning. -/
theorem planDeclaration_ok {d : Declaration} {plans : List (FieldKind × FieldPlan)}
    (h : (c.planDeclaration d).perform.1 = .ok plans) :
    d.fields.map (c.planOf d.name) = plans.map .ok ∧ (d.fields.map (·.name)).Nodup := by
  have hrun : (c.planFields d.name [] d.fields).run.run #[] =
      (.ok plans, ((c.planFields d.name [] d.fields).run.run #[]).2) := Prod.ext h rfl
  obtain ⟨hplans, hnodup, -⟩ := planFields_ok hrun
  exact ⟨hplans, hnodup⟩

end Context

end TypedPreferences
