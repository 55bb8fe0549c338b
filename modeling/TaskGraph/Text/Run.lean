/-!
# Runs of code points

A set of code points is given by runs: a first and a last one and the step between neighbours. A run of
step two holds, for instance, the capital letters of a script that lists each beside its small one.
-/

set_option autoImplicit false

namespace TaskGraph.Text

/-- The code points `first`, `first + step`, … up to `last`. -/
structure Run where
  first : Nat
  last : Nat
  step : Nat
  deriving Repr, DecidableEq

/-- Whether a code point is in a run. -/
def Run.covers (r : Run) (n : Nat) : Bool :=
  r.first ≤ n && n ≤ r.last && (n - r.first) % r.step == 0

/-- Whether a character is in one of some runs. -/
def inRuns (rs : List Run) (c : Char) : Bool := rs.any (·.covers c.toNat)

end TaskGraph.Text
