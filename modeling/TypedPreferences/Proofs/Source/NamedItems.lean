import TypedPreferences.Proofs.Source.ProperTypes

/-! Items whose names are names, and types that end in one. -/

namespace TypedPreferences.Source

/-- A type as it is read: it is proper, and a path through a type in angle marks ends in a name. -/
def Ty.Named (t : Ty) : Prop :=
  t.Proper ∧ ∀ spelling last, t = .projection spelling last → IsName last

def Member.Named : Member → Prop
  | .function _ sig => IsName sig.name
  | _ => True

mutual

/-- What is declared has a name, also inside of modules and implementations; an implementation is on
a type as it is read. -/
def ItemKind.Named : ItemKind → Prop
  | .record name _ _ => IsName name
  | .enumeration name _ _ => IsName name
  | .overlay name _ => IsName name
  | .implementation block => block.selfType.Named ∧ ∀ m ∈ block.members, m.Named
  | .submodule name none => IsName name
  | .submodule name (some content) => IsName name ∧ AllNamed content
  | .function _ sig => IsName sig.name
  | .other => True

def Item.Named : Item → Prop
  | .mk _ kind _ => kind.Named

def AllNamed : List Item → Prop
  | [] => True
  | i :: rest => i.Named ∧ AllNamed rest

end

theorem allNamed_iff {content : List Item} : AllNamed content ↔ ∀ i ∈ content, i.Named := by
  induction content with
  | nil => exact ⟨fun _ => nofun, fun _ => trivial⟩
  | cons i rest ih => rw [List.forall_mem_cons, ← ih, AllNamed]

end TypedPreferences.Source
