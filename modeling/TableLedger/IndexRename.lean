/-
  TableLedger.IndexRename — index names that follow a renamed table.

  When a table is renamed, its indexes whose names contain the old table
  name are renamed to contain the new one.  An index that cannot be renamed
  is left alone; only a failure to list the indexes is reported.
-/

import TableLedger.Catalog
import TableLedger.Dialogue
import TableLedger.Text.Replace

namespace TableLedger.IndexRename

/-- Rename one index if its name contains `old`; whether it was renamed. -/
def renameIndex (d : Dialect) (table : TableRef) (old index : Text) : Dialogue Bool :=
  match Text.replaceIgnoringCase old table.table index with
  | .absent => return false
  | .cutsCharacter => .fail .cutInsideCharacter
  | .replaced newIndex => do
    match ← Dialogue.executing (Catalog.renameIndex d table index newIndex) with
    | .ok _ => return true
    | .error _ => return false

/-- Rename indexes one after the other; how many were renamed. -/
def renameEach (d : Dialect) (table : TableRef) (old : Text) : List Text → Dialogue Nat
  | [] => return 0
  | index :: rest => do
    let renamed ← renameIndex d table old index
    let others ← renameEach d table old rest
    return (if renamed then 1 else 0) + others

/-- Rename the indexes of `table`, which was called `old`; how many were renamed. -/
def renameIndexes (d : Dialect) (table : TableRef) (old : Text) :
    Dialogue (Except StatementError Nat) := do
  if old.isEmpty ∨ old = table.table then return .ok 0
  match ← Dialogue.executing (Catalog.listIndexes d table) with
  | .error e => return .error e
  | .ok result =>
    return .ok (← renameEach d table old (result.columnTexts Catalog.indexNameColumn))

end TableLedger.IndexRename
