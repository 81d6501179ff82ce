/-!
Sets of characters by their runs of code points.
-/

namespace Attestation.Text

/-- The code points where membership changes, in ascending order: the first one is in. -/
abbrev Runs := List Nat

/-- A code point is in when an odd number of changes is at or below it. -/
def Runs.contains (runs : Runs) (c : Char) : Bool :=
  (runs.takeWhile (· ≤ c.toNat)).length % 2 == 1

end Attestation.Text
