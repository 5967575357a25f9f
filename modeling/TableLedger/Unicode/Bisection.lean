/-
  TableLedger.Unicode.Bisection — search in sorted tables.

  A sorted table is searched for its first entry that does not lie before
  the point sought.  Half of what is left goes in each step.
-/

namespace TableLedger.Unicode

/-- First index in `[lo, hi)` that is not `passed`, or `hi`; passed indices
    come before the others. -/
def bisect (passed : Nat → Bool) : Nat → Nat → Nat → Nat
  | 0, lo, _ => lo
  | fuel + 1, lo, hi =>
    if lo < hi then
      let mid := (lo + hi) / 2
      if passed mid then bisect passed fuel (mid + 1) hi else bisect passed fuel lo mid
    else lo

end TableLedger.Unicode
