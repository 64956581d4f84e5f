/-! # Runs of code points

Tables of characters are lists of runs. A run with step two lists every other code point, as the
alphabets do whose upper and lower case letters alternate.
-/

namespace ProviderCodegen.Text

/-- The code points from `first` to `last` at distance `step` of one another. -/
structure Run where
  first : Nat
  last : Nat
  step : Nat
deriving Repr, DecidableEq

/-- Whether a code point lies on the run. -/
def Run.contains (run : Run) (code : Nat) : Bool :=
  run.first ≤ code && code ≤ run.last && (code - run.first) % run.step == 0

/-- Whether a character lies on one of the runs. -/
def inRuns (runs : List Run) (c : Char) : Bool :=
  runs.any (·.contains c.toNat)

end ProviderCodegen.Text
