/-! Sets of characters given by tables of their numbers. -/

namespace TypedPreferences.Text

def inRanges (ranges : List (Nat × Nat)) (n : Nat) : Bool :=
  ranges.any fun (lo, hi) => lo ≤ n && n ≤ hi

/-- Whether a number is a member of one of the runs, each given by its first member, its last and
the distance of neighbours. -/
def inRuns (runs : List (Nat × Nat × Nat)) (n : Nat) : Bool :=
  runs.any fun (lo, hi, step) => lo ≤ n && n ≤ hi && (n - lo) % step == 0

end TypedPreferences.Text
