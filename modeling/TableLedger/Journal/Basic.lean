/-
  TableLedger.Journal.Basic — keeping the logs of a user.

  A journal writes a row for each table that its user creates for a time,
  follows renames and drops, and in its housekeeping drops the tables that
  have expired and deletes the rows of tables that are gone.  A table never
  has two rows: a row is deleted before one is inserted for the same table,
  and before another is renamed onto it.
-/

import TableLedger.Dialogue
import TableLedger.Journal.Command

namespace TableLedger

/-! ## §1. Journals -/

/-- The keeper of the logs of one user. -/
structure Journal where
  dialect : Dialect
  owner : Text
  /-- Days until a logged table expires. -/
  expirationDays : Int
  /-- Schema whose tables are never logged. -/
  archiveSchema : Option Text
  deriving DecidableEq, Repr

/-- A dialogue that may fail in an operation of the journal. -/
abbrev JournalDialogue := ExceptT JournalError Dialogue

/-- What housekeeping did. -/
structure Housekeeping where
  /-- Expired tables that were dropped. -/
  purged : Nat
  /-- Tables whose rows were deleted because they are gone. -/
  reconciled : Nat
  deriving DecidableEq, Repr

/-- What two passes did together. -/
def Housekeeping.plus (a b : Housekeeping) : Housekeeping :=
  ⟨a.purged + b.purged, a.reconciled + b.reconciled⟩

namespace Journal

/-- Name of the journal's logs. -/
def logName (j : Journal) : Text := LogName.ofUser j.owner

/-- The log of a schema. -/
def log (j : Journal) (schema : Text) : TableRef := .inSchema schema j.logName

/-- Whether a table is logged at all: it must be of the session's database, not
    in the archive schema, and not itself a log. -/
def isLoggable (j : Journal) (r : TableRef) : Bool :=
  r.isLocal
    && !j.archiveSchema.any (Text.equalsIgnoringAsciiCase · r.schema)
    && !Text.equalsIgnoringAsciiCase r.table j.logName

/-! ## §2. Single calls -/

/-- The answer to a call, or the failure of an operation of the journal. -/
def answer {α : Type} (schema : Text) (operation : JournalOperation) :
    Except StatementError α → JournalDialogue α
  | .ok a => pure a
  | .error cause => throw ⟨schema, operation, cause⟩

/-- Carry a command out on the log of a schema. -/
def perform (j : Journal) (schema : Text) (command : LogCommand) :
    JournalDialogue QueryResult := do
  answer schema command.operation
    (← Dialogue.executing (command.statement j.dialect schema j.logName))

/-- Whether a schema holds a log. -/
def logExists (j : Journal) (schema : Text) : JournalDialogue Bool := do
  answer schema .lookup (← Dialogue.lookingUp (j.log schema))

/-- Create the log of a schema unless it is there; whether it was created. -/
def ensureLog (j : Journal) (schema : Text) : JournalDialogue Bool := do
  if ← j.logExists schema then return false
  discard <| j.perform schema .create
  return true

/-- The tables that the rows of a log name. -/
def loggedTables (j : Journal) (schema : Text) (command : LogCommand) :
    JournalDialogue (List Text) := do
  return (← j.perform schema command).columnTexts Catalog.tableNameColumn

/-! ## §3. Following a session -/

/-- Write an entry in place of the rows of its table. -/
def insert (j : Journal) (entry : LogEntry) : JournalDialogue Unit := do
  discard <| j.ensureLog entry.schema
  discard <| j.perform entry.schema (.delete entry.table)
  discard <| j.perform entry.schema (.insert entry)

/-- The entry of a table created now, which expires after the journal's number
    of days if it is temporary. -/
def entryNow (j : Journal) (r : TableRef) (temporary : Bool) : Dialogue LogEntry := do
  let now ← Dialogue.readingClock
  if temporary then
    match now.addDays? j.expirationDays with
    | some expiry => return ⟨j.owner, r.schema, r.table, now, some expiry⟩
    | none => .fail .expiryOutOfRange
  else return ⟨j.owner, r.schema, r.table, now, none⟩

/-- Log a table that was just created; whether it is loggable. -/
def trackCreated (j : Journal) (r : TableRef) (temporary : Bool) : JournalDialogue Bool := do
  if !j.isLoggable r then return false
  j.insert (← j.entryNow r temporary)
  return true

/-- Point the row of a renamed table at its new name; whether there is a log. -/
def trackRenamed (j : Journal) (schema old new : Text) : JournalDialogue Bool := do
  if !(← j.logExists schema) then return false
  discard <| j.perform schema (.delete new)
  discard <| j.perform schema (.rename old new)
  return true

/-- Delete the row of a dropped table; whether there is a log. -/
def trackDropped (j : Journal) (schema table : Text) : JournalDialogue Bool := do
  if !(← j.logExists schema) then return false
  discard <| j.perform schema (.delete table)
  return true

/-! ## §4. Housekeeping -/

/-- Drop a table and delete its rows; whether it was dropped.  A table that is
    not there, or cannot be looked up or dropped, is left for another time. -/
def purgeTable (j : Journal) (schema name : Text) : JournalDialogue Bool := do
  let table := TableRef.inSchema schema name
  match ← Dialogue.lookingUp table with
  | .ok true =>
    match ← Dialogue.executing (Catalog.dropIfExists j.dialect table) with
    | .ok _ =>
      discard <| j.perform schema (.deleteNamed name)
      return true
    | .error _ => return false
  | _ => return false

/-- Purge tables one after the other; how many were dropped. -/
def purgeTables (j : Journal) (schema : Text) : List Text → JournalDialogue Nat
  | [] => return 0
  | name :: rest => do
    let dropped ← j.purgeTable schema name
    let others ← j.purgeTables schema rest
    return (if dropped then 1 else 0) + others

/-- Drop the tables of a schema that have expired; how many there were. -/
def purgeExpired (j : Journal) (schema : Text) : JournalDialogue Nat := do
  if !(← j.logExists schema) then return 0
  let now ← Dialogue.readingClock
  j.purgeTables schema (← j.loggedTables schema (.listExpired now))

/-- Delete the rows of a table if it is gone; whether it was. -/
def reconcileTable (j : Journal) (schema name : Text) : JournalDialogue Bool := do
  if ← answer schema .lookup (← Dialogue.lookingUp (.inSchema schema name)) then return false
  discard <| j.perform schema (.deleteNamed name)
  return true

/-- Reconcile tables one after the other; how many were gone. -/
def reconcileTables (j : Journal) (schema : Text) : List Text → JournalDialogue Nat
  | [] => return 0
  | name :: rest => do
    let gone ← j.reconcileTable schema name
    let others ← j.reconcileTables schema rest
    return (if gone then 1 else 0) + others

/-- Delete the rows of tables that are gone; how many tables there were. -/
def reconcile (j : Journal) (schema : Text) : JournalDialogue Nat := do
  if !(← j.logExists schema) then return 0
  j.reconcileTables schema (← j.loggedTables schema .listTables)

/-- The schemas that hold a log of the journal. -/
def schemasWithLog (j : Journal) : JournalDialogue (List Text) := do
  let result ← answer ['*'] .lookup
    (← Dialogue.executing (Catalog.schemasWithLog j.dialect j.logName))
  return result.columnTexts Catalog.tableSchemaColumn

/-- Purge, then reconcile, one schema.  A table found missing by the purge is
    reconciled in the same pass. -/
def housekeepSchema (j : Journal) (schema : Text) : JournalDialogue Housekeeping := do
  let purged ← j.purgeExpired schema
  let reconciled ← j.reconcile schema
  return ⟨purged, reconciled⟩

/-- Housekeep schemas one after the other; a failing one counts for nothing. -/
def housekeepSchemas (j : Journal) : List Text → Dialogue Housekeeping
  | [] => return ⟨0, 0⟩
  | schema :: rest => do
    let here ← (j.housekeepSchema schema).run
    let others ← j.housekeepSchemas rest
    match here with
    | .ok h => return h.plus others
    | .error _ => return others

/-- Housekeep every schema that holds a log. -/
def housekeeping (j : Journal) : JournalDialogue Housekeeping := do
  j.housekeepSchemas (← j.schemasWithLog)

end Journal

end TableLedger
