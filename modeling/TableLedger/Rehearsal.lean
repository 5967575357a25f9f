/-
  TableLedger.Rehearsal — a database played from a script.

  A rehearsal stands in for a database.  It holds a catalog of tables, a
  clock that stands still, a list of statements that fail, a list of
  canned answers, and a record of the calls made to it.  A statement that
  neither fails nor is answered changes the catalog as its classification
  says, so creations, drops and renames behave as in a real database.
-/

import TableLedger.Dialogue
import TableLedger.Script.Classify

namespace TableLedger

/-! ## §1. Calls -/

/-- A call made to a database. -/
inductive Call where
  | execute (statement : Statement)
  | lookUp (table : TableRef)
  | askSchema
  deriving DecidableEq, Repr

/-! ## §2. Catalogs -/

/-- A table of a catalog, by schema and name. -/
structure CatalogEntry where
  schema : Text
  table : Text
  deriving DecidableEq, Repr

namespace CatalogEntry

/-- Order by schema, then by table. -/
def before (a b : CatalogEntry) : Bool :=
  if a.schema = b.schema then Value.textBefore a.table b.table
  else Value.textBefore a.schema b.schema

/-- Add an entry to a sorted catalog that does not hold it. -/
def place (e : CatalogEntry) : List CatalogEntry → List CatalogEntry
  | [] => [e]
  | f :: rest => if e.before f then e :: f :: rest else f :: place e rest

/-- Add an entry to a sorted catalog. -/
def insert (e : CatalogEntry) (catalog : List CatalogEntry) : List CatalogEntry :=
  if catalog.contains e then catalog else place e catalog

/-- The entry of a table; its server and database do not matter. -/
def ofTable (r : TableRef) : CatalogEntry := ⟨r.schema, r.table⟩

/-- Change a catalog as an event says.  A rename moves an entry that is there. -/
def apply (catalog : List CatalogEntry) : TableEvent → List CatalogEntry
  | .created table => (ofTable table).insert catalog
  | .dropped table => catalog.erase (ofTable table)
  | .renamed old new =>
    if catalog.contains (ofTable old) then
      (ofTable new).insert (catalog.erase (ofTable old))
    else catalog

end CatalogEntry

/-! ## §3. Rehearsals -/

/-- Statements that contain a text fail. -/
structure Failure where
  on : Text
  error : StatementError
  deriving DecidableEq, Repr

/-- Statements that contain a text are answered. -/
structure Response where
  on : Text
  rows : List Value
  deriving Repr

/-- A database played from a script. -/
structure Rehearsal where
  dialect : Dialect
  /-- Schema that bare names fall into, or why it cannot be told. -/
  defaultSchema : Except StatementError Text
  now : Timestamp
  /-- Catalog, sorted. -/
  catalog : List CatalogEntry
  failures : List Failure
  /-- Tables whose lookup fails, by their names. -/
  lookUpFailures : List Failure
  responses : List Response
  /-- Calls made since they were last taken, latest first. -/
  calls : List Call

namespace Rehearsal

/-- A rehearsal with nothing in it. -/
def empty (d : Dialect) (defaultSchema : Except StatementError Text) (now : Timestamp) : Rehearsal :=
  ⟨d, defaultSchema, now, [], [], [], [], []⟩

/-- Change the catalog as a script would. -/
def applyScript (r : Rehearsal) (sql : Text) : Rehearsal :=
  let schema := match r.defaultSchema with
    | .ok schema => schema
    | .error _ => r.dialect.fallbackSchema
  match Script.classify r.dialect schema sql with
  | .ok c => { r with catalog := c.events.foldl CatalogEntry.apply r.catalog }
  | .error _ => r

/-- Execute a statement: fail, answer or change the catalog. -/
def execute (s : Statement) (r : Rehearsal) : Except StatementError QueryResult × Rehearsal :=
  let r := { r with calls := .execute s :: r.calls }
  match r.failures.find? fun f => Text.includes f.on s.sql with
  | some f => (.error f.error, r)
  | none =>
    match r.responses.find? fun a => Text.includes a.on s.sql with
    | some a => (.ok ⟨a.rows⟩, r)
    | none => (.ok ⟨[]⟩, r.applyScript s.sql)

/-- Look a table up in the catalog. -/
def lookUp (t : TableRef) (r : Rehearsal) : Except StatementError Bool × Rehearsal :=
  let r := { r with calls := .lookUp t :: r.calls }
  match r.lookUpFailures.find? fun f => f.on == t.table with
  | some f => (.error f.error, r)
  | none => (.ok (r.catalog.contains (.ofTable t)), r)

/-- Tell the schema that bare names fall into. -/
def askSchema (r : Rehearsal) : Except StatementError Text × Rehearsal :=
  (r.defaultSchema, { r with calls := .askSchema :: r.calls })

/-- The rehearsal as a database. -/
def database : Database Rehearsal where
  execute := execute
  lookUp := lookUp
  askSchema := askSchema
  readClock r := (r.now, r)

/-- Run a dialogue against the rehearsal. -/
def play {α : Type} (r : Rehearsal) (dialogue : Dialogue α) : Except Fault α × Rehearsal :=
  dialogue.run database r

/-- Hand over the calls made so far, in order. -/
def takeCalls (r : Rehearsal) : List Call × Rehearsal := (r.calls.reverse, { r with calls := [] })

/-! ## §4. Changing the script -/

/-- Add a table to the catalog. -/
def addTable (r : Rehearsal) (e : CatalogEntry) : Rehearsal :=
  { r with catalog := e.insert r.catalog }

/-- Remove a table from the catalog. -/
def removeTable (r : Rehearsal) (e : CatalogEntry) : Rehearsal :=
  { r with catalog := r.catalog.erase e }

/-- Let further statements fail. -/
def failOn (r : Rehearsal) (f : Failure) : Rehearsal :=
  { r with failures := r.failures ++ [f] }

/-- Let further lookups fail. -/
def failLookUp (r : Rehearsal) (f : Failure) : Rehearsal :=
  { r with lookUpFailures := r.lookUpFailures ++ [f] }

/-- Answer further statements. -/
def respond (r : Rehearsal) (a : Response) : Rehearsal :=
  { r with responses := r.responses ++ [a] }

/-- Let nothing fail any more. -/
def clearFailures (r : Rehearsal) : Rehearsal := { r with failures := [], lookUpFailures := [] }

/-- Answer no statement any more. -/
def clearResponses (r : Rehearsal) : Rehearsal := { r with responses := [] }

end Rehearsal

end TableLedger
