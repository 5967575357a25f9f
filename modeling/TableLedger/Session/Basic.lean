/-
  TableLedger.Session.Basic — executing statements and recording them.

  A session sends statements to its database and records what they did to
  tables: in the registry, which `cleanup` consults to drop what the
  session created, and in the journal, by which tables expire.  Failures of
  the journal and of index renames never fail a statement, and nothing the
  database answers about them changes the registry.
-/

import TableLedger.IndexRename
import TableLedger.Journal.Basic
import TableLedger.Registry
import TableLedger.Script.Classify
import TableLedger.Session.Context

namespace TableLedger

/-! ## §1. Sessions -/

/-- Where a session is in the course of a statement. -/
inductive Phase where
  | idle
  | executing
  | postProcessing
  deriving DecidableEq, Repr

/-- A session of one user with one database. -/
structure Session where
  context : SessionContext
  /-- Schema that bare names fall into. -/
  defaultSchema : Text
  registry : Registry
  phase : Phase
  deriving DecidableEq, Repr

namespace Session

def dialect (s : Session) : Dialect := s.context.dialect

/-- The journal of a context. -/
def journalOf (c : SessionContext) : Journal where
  dialect := c.dialect
  owner := c.user
  expirationDays := c.expirationDays
  archiveSchema := c.permanentSchema?.map (Identifier.canonicalize c.dialect)

/-- The journal of the session. -/
def journal (s : Session) : Journal := journalOf s.context

/-! ## §2. Opening -/

/-- The schema of bare names: the canonical form of the given one, or the
    dialect's own when that is blank. -/
def settleSchema (d : Dialect) (schema : Text) : Text :=
  let canonical := Identifier.canonicalize d schema
  if canonical.trim.isEmpty then d.fallbackSchema else canonical

/-- The given schema, or the one that the database reports. -/
def chooseSchema (c : SessionContext) : Dialogue (Except StatementError Text) := do
  match c.defaultSchema with
  | some schema => return .ok schema
  | none => Dialogue.askingSchema

/-- Open a session with a database that speaks `database`.  Housekeeping on
    opening cannot fail it. -/
def openWith (database : Dialect) (c : SessionContext) : Dialogue (Except Error Session) := do
  if database ≠ c.dialect then
    return .error (.validation (.dialectMismatch c.dialect database))
  if c.user.trim.isEmpty then return .error (.validation .noUser)
  match ← chooseSchema c with
  | .error e => return .error (.statement e)
  | .ok schema =>
    let session : Session := ⟨c, settleSchema c.dialect schema, .empty, .idle⟩
    if c.cleansLogsOnOpen then discard (journalOf c).housekeeping.run
    return .ok session

/-! ## §3. Recording -/

/-- Delete the log row of a table that is gone. -/
def forgetLogged (s : Session) (table : TableRef) : Dialogue Unit := do
  if table.isLocal then discard (s.journal.trackDropped table.schema table.table).run

/-- Bring the log and the indexes in line with a rename.  The row is renamed
    before the old name is forgotten, or it would be lost. -/
def followRename (s : Session) (old new : TableRef) : Dialogue Unit := do
  if new.isLocal then
    discard (s.journal.trackRenamed new.schema old.table new.table).run
    s.forgetLogged old
    discard (IndexRename.renameIndexes s.dialect new old.table)

/-- Bring the log and the indexes in line with an event. -/
def follow (s : Session) (temporary : Bool) : TableEvent → Dialogue Unit
  | .created table => do
    if temporary then discard (s.journal.trackCreated table true).run
  | .dropped table => s.forgetLogged table
  | .renamed old new => s.followRename old new

/-- Record events one after the other. -/
def recordEvents (temporary : Bool) : Session → List TableEvent → Dialogue Session
  | s, [] => return s
  | s, event :: rest => do
    let recorded := { s with registry := s.registry.record event }
    recorded.follow temporary event
    recorded.recordEvents temporary rest

/-- Record a script that was executed.  A script that cannot be classified
    changes nothing. -/
def postProcess (s : Session) (script : Text) (temporary : Bool) :
    Dialogue (Except Error Classification × Session) := do
  match Script.classify s.dialect s.defaultSchema script with
  | .error e => return (.error (.reference e), s)
  | .ok classification =>
    let begun := { s with registry := s.registry.beginStatement }
    return (.ok classification, ← begun.recordEvents temporary classification.events)

/-- Record a script that was executed elsewhere. -/
def recordStatement (s : Session) (script : Text) : Dialogue (Except Error Classification × Session) := do
  let (result, after) ← { s with phase := .postProcessing }.postProcess script true
  return (result, { after with phase := .idle })

/-! ## §4. Executing -/

/-- Execute a script and record it.  Unless `strict`, a failure to execute
    gives no result, and a failure to record is passed over. -/
def query (s : Session) (sql : Text) (options : QueryOptions) :
    Dialogue (Except Error (Option QueryResult) × Session) := do
  match ← Dialogue.executing (.plain sql) with
  | .error e =>
    let result := if options.strict then .error (.statement e) else .ok none
    return (result, { s with phase := .idle })
  | .ok answer =>
    if options.unrecorded then return (.ok (some answer), { s with phase := .idle })
    let (recorded, after) ←
      { s with phase := .postProcessing }.postProcess sql options.temporary
    let result := match recorded with
      | .error e => if options.strict then .error e else .ok (some answer)
      | .ok _ => .ok (some answer)
    return (result, { after with phase := .idle })

/-! ## §5. Cleaning up -/

/-- What became of a table that was to be dropped. -/
inductive DropOutcome where
  | dropped
  /-- It was gone already. -/
  | gone
  /-- It could not be dropped. -/
  | kept
  deriving DecidableEq, Repr

/-- Drop a table if it is there.  If that cannot be told, dropping is tried. -/
def dropIfPresent (s : Session) (table : TableRef) : Dialogue DropOutcome := do
  match ← Dialogue.lookingUp table with
  | .ok false => return .gone
  | _ =>
    match ← Dialogue.executing (Catalog.dropIfExists s.dialect table) with
    | .ok _ => return .dropped
    | .error e => return if e.isMissingTable then .gone else .kept

/-- Drop tables one after the other, counting those dropped and listing those kept. -/
def dropEach : Session → List TableRef → Dialogue (Nat × List TableRef × Session)
  | s, [] => return (0, [], s)
  | s, table :: rest => do
    match ← s.dropIfPresent table with
    | .dropped =>
      s.forgetLogged table
      let recorded := { s with registry := s.registry.recordDropped table }
      let (count, kept, after) ← recorded.dropEach rest
      return (count + 1, kept, after)
    | .gone =>
      s.forgetLogged table
      s.dropEach rest
    | .kept =>
      let (count, kept, after) ← s.dropEach rest
      return (count, table :: kept, after)

/-- Drop every table that the session created; how many were dropped.  A table
    that cannot be dropped stays listed. -/
def cleanup (s : Session) : Dialogue (Nat × Session) := do
  let (tables, emptied) := s.registry.takeCreated
  let (count, kept, after) ← { s with registry := emptied }.dropEach tables
  return (count, { after with registry := kept.foldl Registry.recordCreated after.registry })

/-- Forget every table without touching the database. -/
def reset (s : Session) : Session := { s with registry := .empty }

/-- Housekeep the logs of the session's user. -/
def cleanLogs (s : Session) : Dialogue (Except Error Housekeeping) := do
  match ← s.journal.housekeeping.run with
  | .ok h => return .ok h
  | .error e => return .error (.journal e)

end Session

end TableLedger
