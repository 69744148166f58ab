import TypedPreferences.Proofs.Accessor.Register
import TypedPreferences.Proofs.Fields.Settling

/-! Edits one after another, and a restart. Each edit returns the snapshot that was read first with
all values set since; an accessor that is opened afterwards reads the values that were set last. -/

namespace TypedPreferences

namespace Accessor

variable {F : Type}

/-- Runs edits one after another, and collects the objects that they return. -/
def edits (a : Accessor F) (w : Space F) :
    List (List (String × Datum F)) → List (Shared (Snapshot F)) × Accessor F × Space F
  | [] => ([], a, w)
  | sets :: rest =>
    let (object, a, w) := a.edit w sets
    let (objects, a, w) := a.edits w rest
    (object :: objects, a, w)

section Objects

variable (a : Accessor F) (w : Space F)

theorem published_edit (sets : List (String × Datum F)) :
    (a.edit w sets).2.1.slot.object? = some (a.edit w sets).1 :=
  published_get _ _

end Objects

section Shown

variable {l : Layout F} {id : String} {first : Space F} {a : Accessor F} {w : Space F}
variable {shown : Snapshot F} {calls : List (String × Datum F)}

theorem shows_edit (h : (Desk.mk a w [] [] []).Shows l id first ⟨shown, []⟩ calls)
    (sets : List (String × Datum F)) :
    (a.edit w sets).1.value = shown.setAll sets ∧
      (Desk.mk (a.edit w sets).2.1 (a.edit w sets).2.2 [] [] []).Shows l id first
        ⟨shown.setAll sets, []⟩ (calls ++ sets) := by
  have hedit : (Desk.mk (a.edit w sets).2.1 (a.edit w sets).2.2 [] [] []).Shows l id first
      ⟨shown.setAll sets, []⟩ (calls ++ sets) := h.edit rfl
  obtain ⟨hvalue, -⟩ := hedit.read _ (published_edit a w sets)
  exact ⟨hvalue, hedit⟩

/-- What holds of an accessor and its store after each edit of a history. -/
theorem shows_edits (h : (Desk.mk a w [] [] []).Shows l id first ⟨shown, []⟩ calls)
    (history : List (List (String × Datum F))) :
    (∀ i object, (a.edits w history).1[i]? = some object →
      object.value = shown.setAll (history.take (i + 1)).flatten) ∧
      (Desk.mk (a.edits w history).2.1 (a.edits w history).2.2 [] [] []).Shows l id first
        ⟨shown.setAll history.flatten, []⟩ (calls ++ history.flatten) := by
  -- By induction on the history: what one edit leaves is what the next one begins with.
  induction history generalizing a w shown calls with
  | nil =>
    refine ⟨?_, ?_⟩
    · intro i object hobject
      cases hobject
    · rw [List.flatten_nil, List.append_nil]
      exact h
  | cons sets rest ih =>
    obtain ⟨hvalue, hshows⟩ := shows_edit h sets
    obtain ⟨hvalues, hafter⟩ := ih hshows
    rw [← Snapshot.setAll_append, List.append_assoc] at hafter
    refine ⟨?_, hafter⟩
    intro i object hobject
    cases i with
    | zero =>
      have hsame : (a.edit w sets).1 = object := Option.some.inj hobject
      rw [← hsame, hvalue, List.take_succ_cons, List.take_zero, List.flatten_singleton]
    | succ i =>
      rw [hvalues i object hobject, ← Snapshot.setAll_append, List.take_succ_cons,
        List.flatten_cons]

end Shown

section Restart

variable (l : Layout F) (w : Space F) (space : String) (history : List (List (String × Datum F)))

/-- The space after edits of a new accessor. -/
def afterEdits : Space F :=
  (({ layout := l, space } : Accessor F).edits w history).2.2

/-- The store after edits is what reading it first and all calls have left, or nothing was called
and nothing read. -/
theorem shelf_afterEdits :
    (afterEdits l w space history).shelf space =
        l.encodeAll history.flatten (l.decode (w.shelf space)).2 ∨
      history.flatten = [] ∧ (afterEdits l w space history).shelf space = w.shelf space := by
  let done := ({ layout := l, space } : Accessor F).edits w history
  have hshows := (shows_edits (Desk.Shows.opened l space w) history).2
  rw [List.nil_append] at hshows
  cases hslot : done.2.1.slot.object? with
  | some object =>
    obtain ⟨-, hshelf⟩ := hshows.read object hslot
    exact .inl hshelf
  | none =>
    obtain ⟨-, hcalls, -, hshelf⟩ := hshows.unread hslot
    exact .inr ⟨hcalls, hshelf⟩

variable {l history} {c : Context} {d : Declaration}

/-- The snapshot that a new accessor reads after edits. -/
def restarted (l : Layout F) (w : Space F) (space : String)
    (history : List (List (String × Datum F))) : Snapshot F :=
  (({ layout := l, space } : Accessor F).get (afterEdits l w space history)).1.value

theorem value?_restarted (h : l.IsPlanned c d) {f : LiveField F} (hf : f ∈ l.fields) :
    (restarted l w space history).value? f.name =
      some (l.meaning.decode f.plan f.default
        ((afterEdits l w space history).shelf space)).1 := by
  rw [restarted, get_value_fresh, h.value?_decode hf]

/-- A field that was set is read as the value that was set last; or as its default, when what was
written stands for a missing value. -/
theorem value?_restarted_of_last (h : l.IsPlanned c d) {f : LiveField F} (hf : f ∈ l.fields)
    {kind : FieldKind} (hkind : c.kindOf d.name f.plan.field = .ok kind) {value : Datum F}
    (hvalue : l.meaning.IsValue f.plan.field kind value)
    (hordinals : kind = .ordinal → (l.meaning.ordinals f.plan.field.typeName).Sound)
    (hkeeps : ∀ t, kind = .structured → value.payload = .tree t →
      (l.meaning.structured f.plan.field.typeName).Keeps t)
    (hlast : IsLastSet history.flatten f.name value) :
    (restarted l w space history).value? f.name =
      some (if l.meaning.writesAbsent f.plan.field kind value then f.default
        else l.meaning.kept f.plan.field kind value) := by
  rw [value?_restarted w space h hf]
  rcases shelf_afterEdits l w space history with hshelf | ⟨hnone, -⟩
  · obtain ⟨earlier, later, hsplit, hlater⟩ := hlast
    rw [hsplit] at hshelf
    rw [h.decode_encodeAll hf hkind hvalue hordinals hkeeps earlier hlater
      (congrArg Shelf.store hshelf)]
  · have hmem := hlast.mem
    rw [hnone] at hmem
    cases hmem

end Restart

end Accessor

end TypedPreferences
