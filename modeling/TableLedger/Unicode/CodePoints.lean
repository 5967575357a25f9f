/-
  TableLedger.Unicode.CodePoints — sets of code points as sorted toggles.

  A set of code points is kept as the increasing list of the points where
  membership changes: the first toggle opens a range, the second closes it,
  and so on.  A point belongs to the set exactly when an odd number of
  toggles lie at or below it, and that number is found by bisection.
-/

import TableLedger.Unicode.Bisection

namespace TableLedger.Unicode

/-- A set of code points, given by the points where membership changes. -/
structure CodePoints where
  toggles : Array Nat

namespace CodePoints

/-- Membership: an odd number of toggles lie at or below `n`. -/
def contains (s : CodePoints) (n : Nat) : Bool :=
  bisect (fun i => s.toggles.getD i 0 ≤ n) s.toggles.size 0 s.toggles.size % 2 == 1

end CodePoints

end TableLedger.Unicode
