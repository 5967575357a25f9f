/-
  TableLedger.Proofs.Journal.LogSql — what the statements about a log mean.

  A statement that is sent to a database is a text with values bound to it.
  This file says of the few kinds that are about logs how they are written, for
  any name of a log, and what they do to its rows.  It does so without looking at
  how a journal puts its statements together; that each of them is written in
  this way is a theorem.

  Main statements:
    • `LogCommand.statement_eq` — every command of a journal is sent as the SQL
      that carries it out,
    • `Catalog.localName_injective` — the logs of two schemas have two names,
    • `KeepsLogs` — a database that does to logs what the statements mean, or
      refuses.
-/

import TableLedger.Journal.Basic
import TableLedger.Proofs.Identifier

namespace TableLedger

open Catalog (bindText localName)

/-! ## §1. Rows -/

/-- A column of a log that holds a text. -/
inductive LogColumn where
  | owner
  | schema
  | table
  deriving DecidableEq, Repr

namespace LogColumn

/-- The column as it is written. -/
def name : LogColumn → Text
  | owner => "table_owner".toList
  | schema => "table_schema".toList
  | table => "table_name".toList

/-- What a row holds in the column. -/
def read : LogColumn → LogEntry → Text
  | owner, e => e.owner
  | schema, e => e.schema
  | table, e => e.table

/-- The row with another text in the column. -/
def write : LogColumn → Text → LogEntry → LogEntry
  | owner, t, e => { e with owner := t }
  | schema, t, e => { e with schema := t }
  | table, t, e => { e with table := t }

end LogColumn

/-- A column and a text that is compared with it or put into it. -/
structure LogCell where
  column : LogColumn
  text : Text
  deriving DecidableEq, Repr

namespace LogCell

/-- Whether the row holds the text in the column. -/
def isIn (cell : LogCell) (e : LogEntry) : Bool := cell.column.read e == cell.text

/-- The cell as an equation. -/
def equation (cell : LogCell) : List Fragment :=
  [.sql (cell.column.name ++ " = ".toList), bindText cell.text]

/-- The clause that selects the rows with all of the cells. -/
def whereClause : List LogCell → List Fragment
  | [] => []
  | cell :: rest =>
    .ofString " WHERE " :: cell.equation ++ rest.flatMap fun c => .ofString " AND " :: c.equation

end LogCell

/-! ## §2. Statements -/

/-- A statement about one log. -/
inductive LogSql where
  | create
  | insert (entry : LogEntry)
  /-- Delete the rows with all of the cells. -/
  | delete (conditions : List LogCell)
  /-- Put a text into a column of the rows with all of the cells. -/
  | update (change : LogCell) (conditions : List LogCell)
  /-- List the tables that rows name, or only those that expire before a time. -/
  | select (cutoff : Option Timestamp)
  deriving DecidableEq, Repr

namespace LogSql

/-- The columns of a log with their types. -/
def columnTypes (d : Dialect) : List Text :=
  let types := Catalog.logColumns d
  ["tbl_id ".toList ++ types.id, "table_owner ".toList ++ types.text,
    "table_schema ".toList ++ types.text, "table_name ".toList ++ types.text,
    "created_on ".toList ++ types.time, "expires ".toList ++ types.time]

/-- The columns that an inserted row fills in, with the values. -/
def cells (e : LogEntry) : List (Text × Fragment) :=
  [(LogColumn.owner.name, bindText e.owner), (LogColumn.schema.name, bindText e.schema),
    (LogColumn.table.name, bindText e.table), ("created_on".toList, .bind (.time e.createdOn)),
    ("expires".toList, LogCommand.expiryFragment e.expires)]

/-- What stands between two members of a list. -/
def comma : Text := ", ".toList

/-- What a statement says before the name of its log. -/
def front : LogSql → Text
  | create => "CREATE TABLE ".toList
  | insert _ => "INSERT INTO ".toList
  | delete _ => "DELETE FROM ".toList
  | update _ _ => "UPDATE ".toList
  | select _ =>
    "SELECT DISTINCT table_name AS ".toList ++ Catalog.tableNameColumn ++ " FROM ".toList

/-- What a statement says behind the name of its log. -/
def back (d : Dialect) : LogSql → List Fragment
  | create => [.ofString " (", .sql (Text.join comma (columnTypes d)), .ofString ")"]
  | insert e =>
    [.ofString " (", .sql (Text.join comma ((cells e).map Prod.fst)), .ofString ") VALUES ("]
      ++ ((cells e).map Prod.snd).intersperse (.sql comma) ++ [.ofString ")"]
  | delete conditions => LogCell.whereClause conditions
  | update change conditions =>
    .ofString " SET " :: change.equation ++ LogCell.whereClause conditions
  | select cutoff => cutoff.elim [] fun time => [.ofString " WHERE expires < ", .bind (.time time)]

/-- A statement about the log that is called `name`. -/
def statement (d : Dialect) (name : Text) (sql : LogSql) : Statement :=
  .ofFragments d (.sql sql.front :: .sql name :: sql.back d)

/-- What a statement that is answered does to the rows of its log. -/
def apply : LogSql → List LogEntry → List LogEntry
  | create, _ => []
  | insert e, rows => rows ++ [e]
  | delete conditions, rows => rows.filter fun e => !conditions.all (·.isIn e)
  | update change conditions, rows =>
    rows.map fun e => if conditions.all (·.isIn e) then change.column.write change.text e else e
  | select _, rows => rows

end LogSql

/-! ## §3. Commands -/

/-- The statement that carries a command out on the log of a schema. -/
def LogCommand.sql (schema : Text) : LogCommand → LogSql
  | create => .create
  | insert e => .insert e
  | delete table => .delete [⟨.schema, schema⟩, ⟨.table, table⟩]
  | deleteNamed table => .delete [⟨.table, table⟩]
  | rename old new => .update ⟨.table, new⟩ [⟨.schema, schema⟩, ⟨.table, old⟩]
  | listTables => .select none
  | listExpired cutoff => .select (some cutoff)

/-- Two statements with the same text and the same values are one. -/
theorem Statement.eq_of_parts_eq {s t : Statement} (hsql : s.sql = t.sql)
    (hparams : s.params = t.params) : s = t := by
  cases s
  cases t
  cases hsql
  cases hparams
  rfl

/-- Every command is written as the SQL that carries it out. -/
theorem LogCommand.sql_statement_eq (d : Dialect) (schema log : Text) (command : LogCommand) :
    (command.statement d schema log).sql
      = ((command.sql schema).statement d (localName d schema log)).sql := by
  -- the two sides cut the text into fragments at different places
  cases command with
  | create =>
    simp only [statement, Catalog.createLog, Statement.plain, LogSql.statement,
      Statement.ofFragments, LogSql.back, sql, Statement.sqlFrom, Fragment.ofString,
      Text.join, LogSql.columnTypes, LogSql.comma, List.append_assoc, List.append_nil]
    rfl
  | insert e | delete table | deleteNamed table | rename old new =>
    simp only [statement, LogSql.statement, Statement.ofFragments, LogSql.back, sql,
      Statement.sqlFrom, Fragment.ofString, List.append_assoc]
    rfl
  | listTables | listExpired cutoff =>
    unfold statement listFragment sql LogSql.statement LogSql.front LogSql.back
    simp only [Statement.ofFragments, Option.elim, Statement.sqlFrom, Fragment.ofString,
      List.append_assoc]

/-- Every command is sent as the SQL that carries it out. -/
theorem LogCommand.statement_eq (d : Dialect) (schema log : Text) (command : LogCommand) :
    command.statement d schema log
      = (command.sql schema).statement d (localName d schema log) := by
  refine Statement.eq_of_parts_eq (sql_statement_eq d schema log command) ?_
  cases command <;> rfl

/-- The logs of two schemas have two names. -/
theorem Catalog.localName_injective (d : Dialect) (log : Text) :
    Function.Injective (localName d · log) := by
  intro schema other heq
  have hparts : Identifier.requote d schema ++ ['.'] ++ Identifier.requote d log
      = Identifier.requote d other ++ ['.'] ++ Identifier.requote d log := heq
  rw [List.append_cancel_right_eq, List.append_cancel_right_eq] at hparts
  exact Identifier.requote_injective d hparts

/-! ## §4. Databases -/

/-- A database that keeps logs of the name `log`.  `rows state name` are the rows
    of the log that statements call `name`; one that is not there has none.  A
    statement about a log is applied to it, or is refused and leaves it alone;
    nothing else that a session does of its own accord touches the rows, but for
    drops, which may be of a log. -/
structure KeepsLogs {σ : Type} (db : Database σ) (d : Dialect) (log : Text)
    (rows : σ → Text → List LogEntry) : Prop where
  answered : ∀ {schema : Text} {command : LogCommand} {state after : σ} {answer : QueryResult},
    db.execute ((command.sql schema).statement d (localName d schema log)) state
      = (.ok answer, after) →
    ∀ name, rows after name =
      if name = localName d schema log then (command.sql schema).apply (rows state name)
      else rows state name
  refused : ∀ {schema : Text} {command : LogCommand} {state after : σ} {e : StatementError},
    db.execute ((command.sql schema).statement d (localName d schema log)) state
      = (.error e, after) →
    ∀ name, rows after name = rows state name
  dropIfExists : ∀ r state name,
    rows (db.execute (Catalog.dropIfExists d r) state).2 name = rows state name
      ∨ rows (db.execute (Catalog.dropIfExists d r) state).2 name = []
  schemasWithLog : ∀ state name,
    rows (db.execute (Catalog.schemasWithLog d log) state).2 name = rows state name
  listIndexes : ∀ r state name,
    rows (db.execute (Catalog.listIndexes d r) state).2 name = rows state name
  renameIndex : ∀ r index newIndex state name,
    rows (db.execute (Catalog.renameIndex d r index newIndex) state).2 name = rows state name
  lookUp : ∀ r state name, rows (db.lookUp r state).2 name = rows state name
  askSchema : ∀ state name, rows (db.askSchema state).2 name = rows state name
  readClock : ∀ state name, rows (db.readClock state).2 name = rows state name

namespace KeepsLogs

variable {σ : Type} {db : Database σ} {d : Dialect} {log : Text}
  {rows : σ → Text → List LogEntry}

/-- A command that is answered changes the log of its schema only. -/
theorem rows_of_answered (hlogs : KeepsLogs db d log rows) {schema : Text} {command : LogCommand}
    {state after : σ} {answer : QueryResult}
    (h : db.execute (command.statement d schema log) state = (.ok answer, after)) (other : Text) :
    rows after (localName d other log) =
      if other = schema then (command.sql schema).apply (rows state (localName d other log))
      else rows state (localName d other log) := by
  rw [LogCommand.statement_eq] at h
  rw [hlogs.answered h]
  -- the database tells logs apart by name, and names tell schemas apart
  by_cases hsame : other = schema
  · rw [if_pos (congrArg (localName d · log) hsame), if_pos hsame]
  · rw [if_neg fun hname => hsame (Catalog.localName_injective d log hname), if_neg hsame]

/-- A command that is refused changes nothing. -/
theorem rows_of_refused (hlogs : KeepsLogs db d log rows) {schema : Text} {command : LogCommand}
    {state after : σ} {e : StatementError}
    (h : db.execute (command.statement d schema log) state = (.error e, after)) (name : Text) :
    rows after name = rows state name := by
  rw [LogCommand.statement_eq] at h
  exact hlogs.refused h name

end KeepsLogs

end TableLedger
