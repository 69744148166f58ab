import TypedPreferences.Proofs.Conversion.Lookup
import TypedPreferences.Proofs.Generation.Failing
import TypedPreferences.Proofs.Plan.Lenient

/-! Which field stops the planning of a declaration: the first that repeats a name or cannot be
planned alone. The fault is the one of that field, and names it. -/

namespace TypedPreferences

open Source

/-- The declaration and the field that a fault is about. -/
def Fault.field? : Fault → Option (String × String)
  | .vararg d f => some (d, f)
  | .missingDefault d f => some (d, f)
  | .unresolvedType d f _ => some (d, f)
  | .unsupportedType d f _ => some (d, f)
  | .borrowedField d f _ => some (d, f)
  | .unsupportedConverterType d f _ _ => some (d, f)
  | .nullableConverterType d f _ _ => some (d, f)
  | .duplicateField d f => some (d, f)
  | _ => none

/-- A fault is told of a field of a declaration: it is about the two, and its wording begins with
the declaration and has the field in quotes. -/
structure Fault.Names (fault : Fault) (declaration field : String) : Prop where
  about : fault.field? = some (declaration, field)
  told : ∃ lead rest, fault.message? = some (Fault.about declaration (lead ++ field ++ rest)) ∧
    lead.toList.getLast? = some '\'' ∧ rest.toList.head? = some '\''

theorem getLast?_toList_append (s : String) {t : String} {c : Char}
    (h : t.toList.getLast? = some c) : (s ++ t).toList.getLast? = some c := by
  rw [String.toList_append, List.getLast?_append, h, Option.some_or]

theorem head?_toList_append {s : String} {c : Char} (h : s.toList.head? = some c) (t : String) :
    (s ++ t).toList.head? = some c := by
  rw [String.toList_append, List.head?_append, h, Option.some_or]

/-- Every fault about a field names it. -/
theorem Fault.names_of_field? {fault : Fault} {declaration field : String}
    (h : fault.field? = some (declaration, field)) : fault.Names declaration field := by
  refine ⟨h, ?_⟩
  cases fault with
  | vararg | missingDefault | duplicateField =>
    cases h
    exact ⟨_, _, rfl, by decide, by decide⟩
  | unsupportedType | unsupportedConverterType =>
    cases h
    exact ⟨_, _, rfl, getLast?_toList_append _ (by decide), by decide⟩
  | borrowedField _ _ type =>
    cases h
    refine ⟨"Property '", "' is a borrowed type '" ++ (type ++
      "', consider replacing it with an owned one."), ?_, by decide, ?_⟩
    · simp only [message?, String.append_assoc]
    · exact head?_toList_append (by decide) _
  | unresolvedType | nullableConverterType =>
    cases h
    refine ⟨_, _, congrArg (fun text => some (Fault.about _ text)) (String.append_assoc ..), ?_, ?_⟩
    · exact getLast?_toList_append _ (by decide)
    · exact head?_toList_append (by decide) _
  | invalidDeclaration | parse | format | file | config => cases h

/-- A fault of looking up how a type is stored. -/
def Fault.OfLookup : Fault → Prop
  | .unsupportedType .. => True
  | .unsupportedConverterType .. => True
  | .nullableConverterType .. => True
  | _ => False

/-- What is wrong with a field before its type is looked up, in the order in which it is told. -/
def Field.defects (declaration : String) (field : Field) : List Fault :=
  (if field.type.isVariadic then [.vararg declaration field.name] else []) ++
    (if field.default.isNone then [.missingDefault declaration field.name] else []) ++
    (if field.type.byRef then [.borrowedField declaration field.name field.type.display] else []) ++
    if field.type.isUnresolved then
      [.unresolvedType declaration field.name field.type.display]
    else []

/-- A field whose type may be looked up: it has a default, and its type is no run of elements, is
owned and is resolved. -/
structure Field.IsProper (field : Field) : Prop where
  hasDefault : field.default.isSome = true
  notVariadic : field.type.shape ≠ .variadic
  owned : field.type.byRef = false
  resolved : field.type.shape ≠ .unresolved

theorem Field.isProper_of_defects {field : Field} (declaration : String)
    (h : field.defects declaration = []) : field.IsProper := by
  unfold defects at h
  simp only [List.append_eq_nil_iff, ite_eq_right_iff, imp_false, List.cons_ne_self] at h
  obtain ⟨⟨⟨hvariadic, hdefault⟩, hbyRef⟩, hunresolved⟩ := h
  refine ⟨?_, ?_, Bool.eq_false_iff.2 hbyRef, ?_⟩
  · rwa [Option.isNone_iff_eq_none, ← ne_eq, ← Option.isSome_iff_ne_none] at hdefault
  · intro hshape
    exact hvariadic (by rw [TypeRef.isVariadic, hshape])
  · intro hshape
    exact hunresolved (by rw [TypeRef.isUnresolved, hshape])

theorem Field.of_mem_defects {field : Field} {declaration : String} {fault : Fault}
    (h : fault ∈ field.defects declaration) :
    fault.field? = some (declaration, field.name) ∧ ¬ fault.OfLookup := by
  unfold defects at h
  simp only [List.mem_append, List.mem_ite_nil_right, List.mem_singleton] at h
  rcases h with ((⟨-, rfl⟩ | ⟨-, rfl⟩) | ⟨-, rfl⟩) | ⟨-, rfl⟩ <;> exact ⟨rfl, id⟩

theorem Registry.find_error {r : Registry} {target : TypeRef} {declaration field : String}
    {fault : Fault} (h : r.find target declaration field = .error fault) :
    fault.field? = some (declaration, field) ∧ fault.OfLookup := by
  obtain ⟨encoder, decoder, -, -, hstored⟩ := find_eq_error_iff.1 h
  rcases storedPair_eq_error_iff.1 hstored with ⟨-, rfl⟩ | ⟨kind, -, -, -, rfl⟩
  · exact ⟨rfl, trivial⟩
  · exact ⟨rfl, trivial⟩

namespace Context

variable {c : Context} {declaration : String} {field : Field}

/-- How the type of a field is stored, when the field has no defects. -/
def lookUp (c : Context) (declaration : String) (field : Field) : Except Fault FieldKind :=
  match field.type.primitive? with
  | some kind => .ok (.primitive kind)
  | none =>
    let plain := if field.type.args.isEmpty then field.type.name? else none
    if plain.any c.enums.contains then .ok .ordinal
    else if plain.any c.structured.contains then .ok .structured
    else kindOfFound declaration field (c.registry.find field.type declaration field.name)

theorem kindOf_eq : c.kindOf declaration field =
    match field.defects declaration with
    | [] => c.lookUp declaration field
    | fault :: _ => .error fault := by
  unfold kindOf Field.defects
  cases field.type.isVariadic with
  | true => rfl
  | false =>
    cases field.default.isNone with
    | true => rfl
    | false =>
      cases field.type.byRef with
      | true => rfl
      | false =>
        cases field.type.isUnresolved with
        | true => rfl
        | false =>
          change _ = c.lookUp declaration field
          unfold lookUp
          rcases c.registry.find field.type declaration field.name with _ | _ | pair <;> rfl

theorem lookUp_error {fault : Fault} (h : c.lookUp declaration field = .error fault) :
    fault.field? = some (declaration, field.name) ∧ fault.OfLookup := by
  unfold lookUp at h
  generalize (if field.type.args.isEmpty then field.type.name? else none) = plain at h
  split at h
  · cases h
  dsimp only at h
  split at h
  · cases h
  split at h
  · cases h
  rcases hfound : c.registry.find field.type declaration field.name with _ | _ | pair
  · rw [hfound] at h
    cases h
    exact Registry.find_error hfound
  · rw [hfound] at h
    cases h
    exact ⟨rfl, trivial⟩
  · rw [hfound] at h
    cases h

/-- A field without a kind has a defect, and the first is told, or else its type is not found. -/
theorem of_kindOf_error {fault : Fault} (h : c.kindOf declaration field = .error fault) :
    (field.defects declaration).head? = some fault ∨
      field.defects declaration = [] ∧ fault.OfLookup := by
  rw [kindOf_eq] at h
  cases hdefects : field.defects declaration with
  | nil =>
    rw [hdefects] at h
    exact .inr ⟨rfl, (lookUp_error h).2⟩
  | cons first rest =>
    rw [hdefects] at h
    exact .inl (congrArg some (Except.error.inj h))

theorem field?_of_kindOf_error {fault : Fault} (h : c.kindOf declaration field = .error fault) :
    fault.field? = some (declaration, field.name) := by
  rw [kindOf_eq] at h
  cases hdefects : field.defects declaration with
  | nil =>
    rw [hdefects] at h
    exact (lookUp_error h).1
  | cons first rest =>
    rw [hdefects] at h
    cases h
    exact (Field.of_mem_defects (hdefects ▸ List.mem_cons_self)).1

/-- What comes of a field that is planned alone. -/
def alone (c : Context) (declaration : String) (field : Field) :
    Except Fault (FieldKind × FieldPlan) :=
  (c.planField declaration field).perform.1

theorem alone_eq_planOf : c.alone declaration field = c.planOf declaration field := by
  have hrun := @planField_run c declaration field #[]
  rw [alone, Work.perform, hrun]
  cases c.planOf declaration field <;> rfl

theorem alone_eq_error_iff {fault : Fault} :
    c.alone declaration field = .error fault ↔ c.kindOf declaration field = .error fault := by
  rw [alone_eq_planOf, planOf]
  cases c.kindOf declaration field <;> simp [Except.map]

theorem isProper_of_alone {plan : FieldKind × FieldPlan}
    (h : c.alone declaration field = .ok plan) : field.IsProper := by
  apply Field.isProper_of_defects declaration
  cases hdefects : field.defects declaration with
  | nil => rfl
  | cons first rest =>
    have hkind : c.kindOf declaration field = .error first := by rw [kindOf_eq, hdefects]
    cases h.symm.trans (alone_eq_error_iff.2 hkind)

/-- What stops the planning of a field behind others: its name comes again, or else it cannot be
planned alone. -/
inductive StoppedBy (c : Context) (declaration : String) (before : List Field) (field : Field) :
    Fault → Prop where
  | repeated : field.name ∈ before.map (·.name) →
    StoppedBy c declaration before field (.duplicateField declaration field.name)
  | alone {fault : Fault} : field.name ∉ before.map (·.name) →
    c.alone declaration field = .error fault → StoppedBy c declaration before field fault

/-- Fields that go through: no two have one name, and each can be planned alone. -/
def Pass (c : Context) (declaration : String) (fields : List Field) : Prop :=
  (fields.map (·.name)).Nodup ∧ ∀ f ∈ fields, ∃ plan, c.alone declaration f = .ok plan

theorem pass_nil : c.Pass declaration [] :=
  ⟨List.nodup_nil, nofun⟩

theorem pass_concat {fields : List Field} :
    c.Pass declaration (fields ++ [field]) ↔
      c.Pass declaration fields ∧ field.name ∉ fields.map (·.name) ∧
        ∃ plan, c.alone declaration field = .ok plan := by
  unfold Pass
  rw [List.map_append, List.map_cons, List.map_nil, List.nodup_append]
  simp only [List.mem_append, List.mem_singleton]
  constructor
  · rintro ⟨⟨hnodup, -, hdisjoint⟩, halone⟩
    refine ⟨⟨hnodup, fun f hf => halone f (.inl hf)⟩, fun hmem => ?_, halone field (.inr rfl)⟩
    exact hdisjoint _ hmem _ rfl rfl
  · rintro ⟨⟨hnodup, halone⟩, hnew, hfield⟩
    refine ⟨⟨hnodup, by simp, ?_⟩, ?_⟩
    · rintro name hname _ rfl rfl
      exact hnew hname
    · rintro f (hf | rfl)
      · exact halone f hf
      · exact hfield

theorem Pass.of_append {fields more : List Field}
    (h : c.Pass declaration (fields ++ more)) : c.Pass declaration fields := by
  refine ⟨?_, fun f hf => h.2 f (List.mem_append_left _ hf)⟩
  have hnodup := h.1
  rw [List.map_append, List.nodup_append] at hnodup
  exact hnodup.1

/-- The faults of one field behind names that were seen. -/
def ownFaults (c : Context) (declaration : String) (seen : List String) (field : Field) :
    List Fault :=
  (if seen.contains field.name then [.duplicateField declaration field.name] else []) ++
    match c.alone declaration field with
    | .ok _ => []
    | .error fault => [fault]

theorem fieldFaults_cons (seen : List String) (rest : List Field) :
    c.fieldFaults declaration seen (field :: rest) =
      c.ownFaults declaration seen field ++ c.fieldFaults declaration (field.name :: seen) rest := by
  rw [ownFaults, alone_eq_planOf]
  rfl

section Behind

variable {earlier : List Field} {seen : List String}

theorem stoppedBy_iff {fault : Fault}
    (hseen : ∀ name, seen.contains name = true ↔ name ∈ earlier.map (·.name)) :
    c.StoppedBy declaration earlier field fault ↔
      (c.ownFaults declaration seen field).head? = some fault := by
  unfold ownFaults
  -- A repeated name comes before every fault of the field alone.
  cases hname : seen.contains field.name with
  | true =>
    constructor
    · rintro (- | ⟨hnew, -⟩)
      · rfl
      · exact absurd ((hseen _).1 hname) hnew
    · intro h
      cases h
      exact .repeated ((hseen _).1 hname)
  | false =>
    have hnew : field.name ∉ earlier.map (·.name) := by
      rw [← hseen, hname]
      exact Bool.false_ne_true
    constructor
    · rintro (hmem | ⟨-, hfault⟩)
      · exact absurd hmem hnew
      · rw [hfault]
        rfl
    · intro h
      cases halone : c.alone declaration field with
      | ok plan =>
        rw [halone] at h
        cases h
      | error first =>
        rw [halone] at h
        cases h
        exact .alone hnew halone

theorem ownFaults_eq_nil_iff (hearlier : c.Pass declaration earlier)
    (hseen : ∀ name, seen.contains name = true ↔ name ∈ earlier.map (·.name)) :
    c.ownFaults declaration seen field = [] ↔ c.Pass declaration (earlier ++ [field]) := by
  rw [pass_concat, ownFaults, List.append_eq_nil_iff, ← hseen]
  cases c.alone declaration field <;> simp [hearlier]

end Behind

/-- A list with something at its front is split there or behind it. -/
theorem exists_split_cons {α : Type} {first : α} {rest : List α} {P : List α → α → Prop} :
    (∃ before a after, first :: rest = before ++ a :: after ∧ P before a) ↔
      P [] first ∨ ∃ before a after, rest = before ++ a :: after ∧ P (first :: before) a := by
  constructor
  · rintro ⟨before, a, after, hsplit, h⟩
    cases before with
    | nil =>
      cases hsplit
      exact .inl h
    | cons b before =>
      cases hsplit
      exact .inr ⟨before, a, after, rfl, h⟩
  · rintro (h | ⟨before, a, after, rfl, h⟩)
    · exact ⟨[], first, rest, rfl, h⟩
    · exact ⟨first :: before, a, after, rfl, h⟩

/-- The first fault of fields that stand behind others, which go through: it is the fault of the
field that stops the planning. -/
theorem head?_fieldFaults_iff {earlier fields : List Field} {seen : List String} {fault : Fault}
    (hearlier : c.Pass declaration earlier)
    (hseen : ∀ name, seen.contains name = true ↔ name ∈ earlier.map (·.name)) :
    (c.fieldFaults declaration seen fields).head? = some fault ↔
      ∃ before field after, fields = before ++ field :: after ∧
        c.Pass declaration (earlier ++ before) ∧
        c.StoppedBy declaration (earlier ++ before) field fault := by
  -- By induction on the fields; those that go through move to the ones that stand before.
  induction fields generalizing earlier seen with
  | nil => simp [fieldFaults]
  | cons first rest ih =>
    rw [fieldFaults_cons, List.head?_append, Option.or_eq_some_iff, ← stoppedBy_iff hseen,
      List.head?_eq_none_iff, ownFaults_eq_nil_iff hearlier hseen,
      exists_split_cons (P := fun before field => c.Pass declaration (earlier ++ before) ∧
        c.StoppedBy declaration (earlier ++ before) field fault), List.append_nil,
      and_iff_right hearlier]
    refine or_congr_right ?_
    have hbehind : ∀ before, earlier ++ first :: before = earlier ++ [first] ++ before :=
      fun before => by simp
    constructor
    · rintro ⟨hpass, hhead⟩
      obtain ⟨before, field, after, hrest, hbefore, hstopped⟩ :=
        (ih hpass (by simp [← hseen, or_comm])).1 hhead
      refine ⟨before, field, after, hrest, ?_, ?_⟩
      · rwa [hbehind]
      · rwa [hbehind]
    · rintro ⟨before, field, after, hrest, hpass, hstopped⟩
      rw [hbehind] at hpass hstopped
      refine ⟨hpass.of_append, ?_⟩
      exact (ih hpass.of_append (by simp [← hseen, or_comm])).2
        ⟨before, field, after, hrest, hpass, hstopped⟩

theorem alone_of_defects {fault : Fault} (h : (field.defects declaration).head? = some fault) :
    c.alone declaration field = .error fault := by
  rw [alone_eq_error_iff, kindOf_eq]
  cases hdefects : field.defects declaration with
  | nil =>
    rw [hdefects] at h
    cases h
  | cons first rest =>
    rw [hdefects] at h
    cases h
    rfl

/-- What stops the planning of a field names the field. -/
theorem StoppedBy.names {before : List Field} {fault : Fault}
    (h : c.StoppedBy declaration before field fault) : fault.Names declaration field.name := by
  apply Fault.names_of_field?
  cases h with
  | repeated _ => rfl
  | alone _ hfault => exact field?_of_kindOf_error (alone_eq_error_iff.1 hfault)

theorem planDeclaration_eq_error_iff {d : Declaration} {fault : Fault} :
    (c.planDeclaration d).perform.1 = .error fault ↔
      ∃ before field after, d.fields = before ++ field :: after ∧
        c.Pass d.name before ∧ c.StoppedBy d.name before field fault := by
  have hhead := @head?_fieldFaults_iff c d.name [] d.fields [] fault pass_nil (by simp)
  simp only [List.nil_append] at hhead
  rw [← hhead]
  have hchecked : Checked _ _ (c.planDeclaration d).perform.1 :=
    checked_perform (c.checks_planFields d.name [] d.fields)
  cases houtcome : (c.planDeclaration d).perform.1 with
  | error first =>
    rw [houtcome] at hchecked
    have hfirst : (c.fieldFaults d.name [] d.fields).head? = some first := hchecked
    rw [hfirst, Except.error.injEq, Option.some.injEq]
  | ok plans =>
    rw [houtcome] at hchecked
    rw [hchecked.1]
    exact ⟨nofun, nofun⟩

theorem exists_plans_iff_pass {d : Declaration} :
    (∃ plans, (c.planDeclaration d).perform.1 = .ok plans) ↔ c.Pass d.name d.fields := by
  have halone : ∀ f, (∃ plan, c.alone d.name f = .ok plan) ↔
      ∃ kind, c.kindOf d.name f = .ok kind := by
    intro f
    rw [alone_eq_planOf, planOf]
    cases c.kindOf d.name f <;> simp [Except.map]
  rw [exists_planDeclaration_iff, Pass, and_comm]
  simp only [halone]

/-- A declaration is planned just when no two of its fields have one name and each can be planned
alone; the plans are then those of the fields, in order. What it fails with otherwise is the fault
of the first field that repeats a name or cannot be planned alone, and names that field. A field
that is planned has a default and an owned, resolved type that is no run of elements; the first of
these that it lacks is told before any fault of looking its type up. -/
theorem planned_or_first_fault (c : Context) (d : Declaration) :
    ((∃ plans, (c.planDeclaration d).perform.1 = .ok plans) ↔
      (d.fields.map (·.name)).Nodup ∧ ∀ f ∈ d.fields, ∃ plan, c.alone d.name f = .ok plan) ∧
    (∀ plans, (c.planDeclaration d).perform.1 = .ok plans →
      d.fields.map (c.alone d.name) = plans.map .ok) ∧
    (∀ fault, (c.planDeclaration d).perform.1 = .error fault ↔
      ∃ before field after, d.fields = before ++ field :: after ∧
        c.Pass d.name before ∧ c.StoppedBy d.name before field fault) ∧
    (∀ before field fault, c.StoppedBy d.name before field fault →
      fault.Names d.name field.name) ∧
    ∀ field : Field,
      (∀ plan, c.alone d.name field = .ok plan → field.IsProper) ∧
      (∀ fault, (field.defects d.name).head? = some fault →
        c.alone d.name field = .error fault ∧ ¬ fault.OfLookup) ∧
      ∀ fault, c.alone d.name field = .error fault →
        (field.defects d.name).head? = some fault ∨
          field.defects d.name = [] ∧ fault.OfLookup := by
  refine ⟨exists_plans_iff_pass, fun plans hplans => ?_, fun fault => planDeclaration_eq_error_iff,
    fun before field fault hstopped => hstopped.names, fun field => ⟨fun plan hplan => ?_, ?_, ?_⟩⟩
  · -- Planning in a row gives each field the plan that it has alone.
    have hmap := (planDeclaration_ok hplans).1
    rwa [show c.planOf d.name = c.alone d.name from funext fun f => alone_eq_planOf.symm] at hmap
  · exact isProper_of_alone hplan
  · intro fault hfault
    have hdefect := Field.of_mem_defects (List.mem_of_mem_head? hfault)
    exact ⟨alone_of_defects hfault, hdefect.2⟩
  · exact fun fault hfault => of_kindOf_error (alone_eq_error_iff.1 hfault)

-- The second field is the first that stops the planning, by what comes first of its two defects.
example : (Context.planDeclaration ⟨["Power"], [], ⟨.exact, []⟩⟩ ⟨"Lamp", "lamp", [],
    [⟨"power", .mk default default (.named "Power" []) false false, some [], false⟩,
      ⟨"dim", .mk default default .variadic false false, none, false⟩,
      ⟨"power", .mk default default .unresolved false false, none, false⟩]⟩).perform.1 =
    .error (.vararg "Lamp" "dim") := rfl

end Context

end TypedPreferences
