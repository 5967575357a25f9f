/-
  TableLedger.Proofs.Session.LedgerDatabase — a database that serves its logs.

  A database of any dialect whose state holds the rows of each log by the name that
  statements call it, and the time.  It reads statements about logs as they are
  written, carries them out unless the log is missing, or there already, and answers
  those that list tables with the tables that the rows name.  Every other statement
  is answered and changes nothing, and every table that is not a log is there.

  Main statements:
    • `serves` — it refuses nothing that is asked of a log that is there,
    • `LoggedTable.query_createT` — a session creates a table and logs it.
-/

import TableLedger.Proofs.Journal.ServedLogs
import TableLedger.Proofs.Session.LogDatabase
import TableLedger.Proofs.Session.RenameElsewhere

namespace TableLedger

open Catalog (localName)

/-- The logs of a database, and its time. -/
structure Ledger where
  logs : LogDatabase.Logs
  now : Timestamp

namespace LedgerDatabase

open LogDatabase (between? between?_append carryOut sqlOf?)

/-! ## §1. Reading statements -/

/-- What a statement about a log may mean, by the values bound to it. -/
def readings : List Param → List LogSql
  | [] => [.create, .select none]
  | [.time cutoff] => [.select (some cutoff)]
  | params => (sqlOf? params).toList

/-- The meaning of a statement about a log and the name that it calls the log. -/
def aim? (d : Dialect) (s : Statement) : Option (LogSql × Text) :=
  (readings s.params).findSome? fun sql =>
    (between? sql.front (Statement.sqlFrom d 1 (sql.back d)) s.sql).map (sql, ·)

/-- A statement about a log is understood if its values have one reading at the front. -/
theorem aim?_statement {d : Dialect} {sql : LogSql} {name : Text} {others : List LogSql}
    (h : readings (sql.statement d name).params = sql :: others) :
    aim? d (sql.statement d name) = some (sql, name) := by
  have hname : between? sql.front (Statement.sqlFrom d 1 (sql.back d)) (sql.statement d name).sql
      = some name := between?_append _ _ _
  unfold aim?
  rw [h, List.findSome?_cons, hname, Option.map_some]

/-- A command is read as what it means. -/
theorem aim?_command (d : Dialect) (schema name : Text) (command : LogCommand) :
    aim? d ((command.sql schema).statement d name) = some (command.sql schema, name) := by
  cases command with
  | create => cases d <;> exact aim?_statement rfl
  | insert e =>
    -- an expiry is one more value that is bound
    obtain ⟨owner, entrySchema, table, createdOn, expires⟩ := e
    cases expires with
    | none => exact aim?_statement rfl
    | some time => exact aim?_statement rfl
  | delete table => exact aim?_statement rfl
  | deleteNamed table => exact aim?_statement rfl
  | rename old new => exact aim?_statement rfl
  | listTables =>
    -- it binds nothing, as a creation does, but begins with another word
    have hcreate : between? LogSql.create.front (Statement.sqlFrom d 1 (LogSql.create.back d))
        ((LogSql.select none).statement d name).sql = none := rfl
    have hselect : between? (LogSql.select none).front
        (Statement.sqlFrom d 1 ((LogSql.select none).back d))
        ((LogSql.select none).statement d name).sql = some name := between?_append _ _ _
    show ([LogSql.create, LogSql.select none].findSome? fun sql => (between? sql.front
      (Statement.sqlFrom d 1 (sql.back d)) ((LogSql.select none).statement d name).sql).map
        (sql, ·)) = _
    rw [List.findSome?_cons, hcreate, Option.map_none, List.findSome?_cons, hselect]
    rfl
  | listExpired cutoff => exact aim?_statement rfl

/-! ## §2. The database -/

/-- The rows that answer a statement about a log: the tables that its rows name, or
    only those that expire before a time. -/
def answer : LogSql → List LogEntry → List Value
  | .select cutoff, rows =>
    ((rows.filter fun e => cutoff.all e.isExpiredAt).map LogEntry.table).eraseDups.map fun name =>
      .object [(Catalog.tableNameColumn, .text name)]
  | _, _ => []

/-- Carry a statement about a log out. -/
def carryOutOn (sql : LogSql) (name : Text) (ledger : Ledger) :
    Except StatementError QueryResult × Ledger :=
  let carried := carryOut sql name ledger.logs
  (carried.1.map fun _ => ⟨answer sql (LogDatabase.rows ledger.logs name)⟩,
    { ledger with logs := carried.2 })

/-- A database that speaks the dialect `d` and serves the logs that are named `log`. -/
def database (d : Dialect) (log : Text) : Database Ledger where
  execute s ledger :=
    match aim? d s with
    | some (sql, name) => carryOutOn sql name ledger
    | none => (.ok ⟨[]⟩, ledger)
  lookUp r ledger :=
    (.ok (if r.table = log then (ledger.logs (r.qualified d)).isSome else true), ledger)
  askSchema ledger := (.ok d.fallbackSchema, ledger)
  readClock ledger := (ledger.now, ledger)

variable (d : Dialect) (log : Text)

/-- What is not about a log is answered and changes nothing. -/
theorem execute_of_aim?_eq_none {s : Statement} (h : aim? d s = none) (ledger : Ledger) :
    (database d log).execute s ledger = (.ok ⟨[]⟩, ledger) := by
  show (match aim? d s with
    | some (sql, name) => carryOutOn sql name ledger
    | none => (.ok ⟨[]⟩, ledger)) = _
  rw [h]

/-- A command is carried out on the log that it names. -/
theorem execute_command (schema name : Text) (command : LogCommand) (ledger : Ledger) :
    (database d log).execute ((command.sql schema).statement d name) ledger
      = carryOutOn (command.sql schema) name ledger := by
  show (match aim? d _ with
    | some (sql, name) => carryOutOn sql name ledger
    | none => (.ok ⟨[]⟩, ledger)) = _
  rw [aim?_command]

/-- A statement that is answered was carried out on the logs. -/
theorem carryOut_of_answered {sql : LogSql} {name : Text} {ledger after : Ledger}
    {result : QueryResult} (h : carryOutOn sql name ledger = (.ok result, after)) :
    ∃ found, carryOut sql name ledger.logs = (.ok found, after.logs) := by
  obtain ⟨hanswer, rfl⟩ := Prod.mk.inj h
  cases hcarried : (carryOut sql name ledger.logs).1 with
  | error e => rw [hcarried] at hanswer; injection hanswer
  | ok found => exact ⟨found, Prod.ext hcarried rfl⟩

/-- What is refused changes no log. -/
theorem carryOut_of_refused {sql : LogSql} {name : Text} {ledger after : Ledger}
    {e : StatementError} (h : carryOutOn sql name ledger = (.error e, after)) :
    ∃ refusal, carryOut sql name ledger.logs = (.error refusal, after.logs) := by
  obtain ⟨hanswer, rfl⟩ := Prod.mk.inj h
  cases hcarried : (carryOut sql name ledger.logs).1 with
  | error refusal => exact ⟨refusal, Prod.ext hcarried rfl⟩
  | ok found => rw [hcarried] at hanswer; injection hanswer

/-- Statements that are about no log leave the logs alone. -/
theorem keepsLogs : KeepsLogs (database d log) d log (rowsOf Ledger.logs) where
  answered h name := by
    rw [execute_command] at h
    obtain ⟨found, hcarried⟩ := carryOut_of_answered h
    exact LogDatabase.rows_carryOut_of_answered hcarried name
  refused h name := by
    rw [execute_command] at h
    obtain ⟨refusal, hcarried⟩ := carryOut_of_refused h
    unfold rowsOf
    rw [LogDatabase.eq_of_carryOut_refused hcarried]
  dropIfExists r state name := by
    rw [execute_of_aim?_eq_none d log (by cases d <;> rfl)]
    exact .inl rfl
  schemasWithLog state name := by rw [execute_of_aim?_eq_none d log (by cases d <;> rfl)]
  listIndexes r state name := by rw [execute_of_aim?_eq_none d log (by cases d <;> rfl)]
  renameIndex r index newIndex state name := by
    rw [execute_of_aim?_eq_none d log (by cases d <;> rfl)]
  lookUp _ _ _ := rfl
  askSchema _ _ := rfl
  readClock _ _ := rfl

/-- The database serves its logs. -/
theorem serves : ServesLogs (database d log) d log Ledger.logs where
  keeps := keepsLogs d log
  lookUp schema ledger := by
    refine ⟨ledger, ?_, rfl⟩
    show (Except.ok (if log = log then _ else _), ledger) = _
    rw [if_pos rfl]
    rfl
  serves schema command ledger hcommand hthere := by
    have hsql : command.sql schema ≠ .create := by
      cases command with
      | create => exact absurd rfl hcommand
      | insert | delete | deleteNamed | rename | listTables | listExpired => nofun
    -- nothing but a creation is refused by a log that is there
    have hcarried : carryOut (command.sql schema) (localName d schema log) ledger.logs
        = (.ok ⟨[]⟩, ledger.logs.put (localName d schema log) ((command.sql schema).apply
            (LogDatabase.rows ledger.logs (localName d schema log)))) := by
      unfold carryOut
      refine if_neg ?_
      rw [hthere, decide_eq_true_eq]
      exact hsql
    rw [execute_command]
    unfold carryOutOn
    rw [hcarried]
    refine ⟨_, _, rfl, ?_⟩
    unfold LogDatabase.Logs.put
    simp

end LedgerDatabase

/-! ## §3. A table that is logged -/

namespace LoggedTable

open Dialogue
open GrudgingDatabase (serverContext listing)

/-- A SQL Server database that serves the log of the user. -/
def database : Database Ledger := LedgerDatabase.database .ms (listing []).journal.logName

/-- The database serves the logs of the journal. -/
theorem serves : ServesLogs database .ms (listing []).journal.logName Ledger.logs :=
  LedgerDatabase.serves .ms _

/-- A statement that is about no log is answered and changes nothing. -/
theorem execute_plain {script : Text} (h : LedgerDatabase.aim? .ms (.plain script) = none)
    (ledger : Ledger) : database.execute (.plain script) ledger = (.ok ⟨[]⟩, ledger) :=
  LedgerDatabase.execute_of_aim?_eq_none .ms _ h ledger

def noLedger : Ledger := ⟨LogDatabase.noLogs, ⟨0, 0⟩⟩

theorem openWith_serverContext :
    (Session.openWith .ms serverContext).run database noLedger
      = (.ok (.ok (listing [])), noLedger) := rfl

def t : TableRef := .inSchema "dbo".toList "t".toList

def createT : Text := "CREATE TABLE dbo.t (id int)".toList

/-- The database when the session has created the table. -/
def withRow : Ledger :=
  ((Session.recordEvents true (listing []).begun [.created t]).run database noLedger).2

/-- The row of the table. -/
def row : LogEntry :=
  ⟨"alice".toList, "dbo".toList, "t".toList, ⟨0, 0⟩, some ⟨7, 0⟩⟩

theorem classify_createT :
    Script.classify (listing []).dialect (listing []).defaultSchema createT
      = .ok ⟨[.created t]⟩ := by decide +kernel

theorem aim?_createT : LedgerDatabase.aim? .ms (.plain createT) = none := by decide +kernel

/-- A new session creates the table and logs it. -/
theorem query_createT :
    ((listing []).query createT .standard).run database noLedger
      = (.ok (.ok (some ⟨[]⟩), listing [t]), withRow) := by
  have hended : ((Session.recordEvents true (listing []).begun [.created t]).run database
      noLedger).1.toOption = some { listing [t] with phase := .postProcessing } := by
    decide +kernel
  exact Session.query_run_of_classify (execute_plain aim?_createT noLedger)
    (show QueryOptions.standard.unrecorded = false from rfl) classify_createT
    (run_eq_of_toOption_eq hended)

/-- The log has one row for it. -/
theorem rowsFor_withRow :
    rowsFor t.schema t.table ((listing [t]).journal.logRows (rowsOf Ledger.logs) withRow t.schema)
      = [row] := by decide +kernel

end LoggedTable

end TableLedger
