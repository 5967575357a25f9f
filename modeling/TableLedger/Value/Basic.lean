/-
  TableLedger.Value.Basic — the values that a database answers with.

  A row is an object whose fields are its columns.  Three questions are
  asked of answers: the value of a column in the first row, the texts of a
  column over all rows, and whether a value means yes.
-/

import TableLedger.Decimal.Shortest

namespace TableLedger

/-- A value of an answer. -/
inductive Value where
  | null
  | bool (b : Bool)
  | int (n : Int)
  | float (x : Float)
  | text (t : Text)
  | array (items : List Value)
  | object (fields : List (Text × Value))
  deriving Repr, Inhabited

namespace Value

/-- The field of an object; the last of several of one name counts. -/
def field? (name : Text) : Value → Option Value
  | object fields => (fields.reverse.find? fun f => f.1 == name).map Prod.snd
  | _ => none

/-- Whether a value means yes: true, a number other than zero that fits in 64
    bits with its sign, or one of a few words. -/
def isTruthy : Value → Bool
  | bool b => b
  | int n => n != 0 && -9223372036854775808 ≤ n && n ≤ 9223372036854775807
  | text t =>
    ["t".toList, "true".toList, "1".toList, "yes".toList].contains t.asciiLowercase
  | _ => false

end Value

end TableLedger
