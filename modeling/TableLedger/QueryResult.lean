/-
  TableLedger.QueryResult — the rows that answer a statement.
-/

import TableLedger.Value.Text

namespace TableLedger

/-- The rows that answer a statement. -/
structure QueryResult where
  rows : List Value
  deriving Repr, Inhabited

namespace QueryResult

/-- Number of rows. -/
def size (r : QueryResult) : Nat := r.rows.length

/-- The value of a column in the first row. -/
def firstValue? (r : QueryResult) (column : Text) : Option Value :=
  r.rows.head?.bind (Value.field? column)

/-- The texts of a column, nulls and rows without it left out. -/
def columnTexts (r : QueryResult) (column : Text) : List Text :=
  r.rows.filterMap fun row => (row.field? column).bind Value.columnText?

end QueryResult

end TableLedger
