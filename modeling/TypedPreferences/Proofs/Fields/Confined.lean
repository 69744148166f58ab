import TypedPreferences.Proofs.Fields.Written

/-! Reading and writing a field touch one key of the store only: entries under other keys stay, and
what is read and written depends on the entry under that key alone. This holds of all lists of
steps, whether a planner would make them or not. -/

namespace TypedPreferences

/-- A use of a shelf that stays at one key. -/
structure Confined {α : Type} (key : String) (f : Shelf → α × Shelf) : Prop where
  frame : ∀ s k, k ≠ key → (f s).2.store.get? k = s.store.get? k
  result : ∀ s s', s.store.get? key = s'.store.get? key → (f s).1 = (f s').1
  entry : ∀ s s', s.store.get? key = s'.store.get? key →
    (f s).2.store.get? key = (f s').2.store.get? key

namespace Confined

variable {α β : Type} {key : String}

theorem pure (key : String) (a : α) : Confined key fun s => (a, s) where
  frame _ _ _ := rfl
  result _ _ _ := rfl
  entry _ _ h := h

theorem of_store_eq {f : Shelf → α × Shelf} (hstore : ∀ s, (f s).2.store = s.store)
    (hresult : ∀ s s', s.store.get? key = s'.store.get? key → (f s).1 = (f s').1) :
    Confined key f where
  frame s k _ := by rw [hstore]
  result := hresult
  entry s s' h := by rw [hstore, hstore, h]

/-- One use after another stays at the key at which both stay. -/
theorem bind {f : Shelf → α × Shelf} {g : α → Shelf → β × Shelf} (hf : Confined key f)
    (hg : ∀ a, Confined key (g a)) : Confined key fun s => g (f s).1 (f s).2 where
  frame s k hk := by rw [(hg _).frame _ k hk, hf.frame s k hk]
  result s s' h := by
    rw [hf.result s s' h]
    exact (hg _).result _ _ (hf.entry s s' h)
  entry s s' h := by
    rw [hf.result s s' h]
    exact (hg _).entry _ _ (hf.entry s s' h)

theorem ite {f g : Shelf → α × Shelf} {p : Shelf → Bool} (hf : Confined key f)
    (hg : Confined key g) (hp : ∀ s s', s.store.get? key = s'.store.get? key → p s = p s') :
    Confined key fun s => if p s then f s else g s where
  frame s k hk := by
    split
    · exact hf.frame s k hk
    · exact hg.frame s k hk
  result s s' h := by
    rw [hp s s' h]
    split
    · exact hf.result s s' h
    · exact hg.result s s' h
  entry s s' h := by
    rw [hp s s' h]
    split
    · exact hf.entry s s' h
    · exact hg.entry s s' h

end Confined

def Shelf.changed (f : Shelf → Shelf) (s : Shelf) : Unit × Shelf := ((), f s)

namespace Meaning

variable {F : Type} (m : Meaning F)

theorem confined_write (field : Field) (raw : Write) (value : Datum F) :
    Confined field.name (Shelf.changed (m.write field raw value)) where
  frame s k hk := by rw [Shelf.changed, get?_write, if_neg hk]
  result _ _ _ := rfl
  entry s s' h := by
    rw [Shelf.changed, Shelf.changed, get?_write, get?_write, if_pos rfl, if_pos rfl, h]

theorem confined_encode (field : Field) (steps : List EncodeStep) (value : Datum F) :
    Confined field.name (Shelf.changed (m.encode field steps value)) := by
  -- By induction on the steps; a converter changes the value only, which is why it is general.
  induction steps generalizing value with
  | nil => exact Confined.pure _ ()
  | cons step rest ih =>
    cases step with
    | convert call => exact ih _
    | write raw => exact (confined_write m field raw value).bind fun _ => ih value

/-- The steps for a missing value stay at the key of the field: they write nothing but the default.
-/
theorem confined_fallBack (plan : FieldPlan) (default : Datum F) (branch : List AbsentStep) :
    Confined plan.field.name (m.fallBack plan default branch) := by
  induction branch with
  | nil => exact Confined.pure _ false
  | cons step rest ih =>
    cases step with
    | returnDefault => exact Confined.pure _ true
    | persistDefault guard =>
      -- The guard looks at the default, not at the store, so the case is the same for all stores.
      by_cases hg : mayPersist default guard
      · have hwrites : m.fallBack plan default (.persistDefault guard :: rest) =
            fun s => m.fallBack plan default rest (m.encode plan.field plan.encode default s) := by
          funext s
          rw [fallBack, if_pos hg]
        rw [hwrites]
        exact (confined_encode m plan.field plan.encode default).bind fun _ => ih
      · have hkeeps : m.fallBack plan default (.persistDefault guard :: rest) =
            m.fallBack plan default rest := by
          funext s
          rw [fallBack, if_neg hg]
        rw [hkeeps]
        exact ih

theorem confined_read (field : Field) (raw : Read) :
    Confined field.name (m.read field raw) := by
  -- Reading leaves the store alone; what is read is a function of the entry.
  refine .of_store_eq (fun s => by cases raw <;> rfl) fun s s' h => ?_
  have hread? (kind : Primitive) :
      Store.read? s.store kind field.name = Store.read? s'.store kind field.name := by
    rw [Store.read?, Store.read?, h]
  cases raw with
  | scalar kind => cases kind <;> simp only [read, readScalar, readOption, Store.read, hread?]
  | existence kind => simp only [read, readOption, hread?]
  | ordinal => simp only [read, Store.read, hread?]
  | marshal => simp only [read, Structured.decode, Structured.tryDecode, hread?]
  | nullableScalar kind =>
    cases kind <;> simp only [read, readNullable, readOption, Store.read, hread?]

theorem confined_decodeFrom (plan : FieldPlan) (default : Datum F) (steps : List DecodeStep)
    (value : Datum F) :
    Confined plan.field.name (m.decodeFrom plan default steps value) := by
  induction steps generalizing value with
  | nil => exact Confined.pure _ value
  | cons step rest ih =>
    cases step with
    | read raw => exact (confined_read m plan.field raw).bind ih
    | produce product wrapSome => exact Confined.pure _ _
    | onAbsent check branch =>
      -- After the steps for a missing value, the default is returned or reading goes on.
      let after (returns : Bool) (s : Shelf) : Datum F × Shelf :=
        if returns then (default, s) else m.decodeFrom plan default rest value s
      have hafter (returns : Bool) : Confined plan.field.name (after returns) := by
        cases returns with
        | false => exact ih value
        | true => exact Confined.pure _ default
      refine .ite ((confined_fallBack m plan default branch).bind hafter) (ih _) ?_
      · intro s s' h
        cases check with
        | keyMissing => simp only [isMissing, SortedMap.contains, h]
        | sentinel => rfl
        | noneValue => rfl

theorem confined_decode (plan : FieldPlan) (default : Datum F) :
    Confined plan.field.name (m.decode plan default) :=
  confined_decodeFrom m plan default plan.decode default

end Meaning

end TypedPreferences
