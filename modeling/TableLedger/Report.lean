/-
  TableLedger.Report — the printed summary of a classification.

  The report lists the tables created, the tables dropped and the renames.
  Every table is an object with the parts that are known, from the server
  to the table.
-/

import TableLedger.TableEvent
import TableLedger.Value.Text

namespace TableLedger

/-- A table as an object, the known parts in order. -/
def TableRef.toValue (r : TableRef) : Value :=
  let known (name : String) (part : Option Text) : List (Text × Value) :=
    part.toList.map fun t => (name.toList, .text t)
  .object (known "server" r.server ++ known "database" r.database
    ++ known "schema" (some r.schema) ++ known "table" (some r.table))

/-- A rename as an object, the old name first. -/
def Rename.toValue (r : Rename) : Value :=
  .object [("from".toList, r.old.toValue), ("to".toList, r.new.toValue)]

namespace Classification

/-- The summary of a classification. -/
def report (c : Classification) : Value :=
  .object [
    ("created".toList, .array (c.created.map TableRef.toValue)),
    ("dropped".toList, .array (c.dropped.map TableRef.toValue)),
    ("renamed".toList, .array (c.renamed.map Rename.toValue))]

/-- The summary as it is printed, without a final line break. -/
def reportText (c : Classification) : Text := c.report.indented 0

end Classification

end TableLedger
