/-
  TableLedger.Proofs.Session.LogDatabase — a database that keeps logs.

  A PostgreSQL database that knows of logs only: its state holds the rows of each
  log by the name that statements call it.  It tells what a statement about a log
  means by the values bound to it and the words around the name; any other
  statement is answered and changes nothing.

  Main statement:
    • `keepsLogs` — it does to logs what the statements mean, or refuses.
-/

import Mathlib.Control.Monad.Basic
import TableLedger.Proofs.Script.Mention
import TableLedger.Proofs.Session.LogRows
import TableLedger.Proofs.Session.TruthfulCatalog

namespace TableLedger

open Catalog (localName)
open Dialogue

namespace LogDatabase

open PlainDatabase (behind? behind?_append)

/-! ## §1. Reading statements -/

/-- What stands between two texts at the ends of a text. -/
def between? (opening closing t : Text) : Option Text :=
  (behind? opening t).bind fun rest => (behind? closing.reverse rest.reverse).map List.reverse

/-- What stands between two texts is found between them. -/
theorem between?_append (opening inner closing : Text) :
    between? opening closing (opening ++ (inner ++ closing)) = some inner := by
  unfold between?
  rw [behind?_append, Option.bind_some, List.reverse_append, behind?_append, Option.map_some,
    List.reverse_reverse]

/-- What a statement about a log means, by the values bound to it. -/
def sqlOf? : List Param → Option LogSql
  | [] => some .create
  | [.text table] => some (.delete [⟨.table, table⟩])
  | [.text schema, .text table] => some (.delete [⟨.schema, schema⟩, ⟨.table, table⟩])
  | [.text new, .text schema, .text old] =>
    some (.update ⟨.table, new⟩ [⟨.schema, schema⟩, ⟨.table, old⟩])
  | [.text owner, .text schema, .text table, .time createdOn] =>
    some (.insert ⟨owner, schema, table, createdOn, none⟩)
  | [.text owner, .text schema, .text table, .time createdOn, .time expires] =>
    some (.insert ⟨owner, schema, table, createdOn, some expires⟩)
  | _ => none

/-- The meaning of a statement about a log and the name that it calls the log. -/
def aim? (s : Statement) : Option (LogSql × Text) :=
  (sqlOf? s.params).bind fun sql =>
    (between? sql.front (Statement.sqlFrom .pg 1 (sql.back .pg)) s.sql).map fun name => (sql, name)

/-- A statement about a log is understood if its values are. -/
theorem aim?_statement {sql : LogSql} {name : Text}
    (h : sqlOf? (sql.statement .pg name).params = some sql) :
    aim? (sql.statement .pg name) = some (sql, name) := by
  have hname : between? sql.front (Statement.sqlFrom .pg 1 (sql.back .pg))
      (sql.statement .pg name).sql = some name := between?_append _ _ _
  unfold aim?
  rw [h, Option.bind_some, hname, Option.map_some]

/-! ## §2. The database -/

/-- The logs that there are, by name, with their rows. -/
abbrev Logs := Text → Option (List LogEntry)

/-- The rows of a log; one that is not there has none. -/
def rows (logs : Logs) (name : Text) : List LogEntry := (logs name).getD []

/-- The logs with other rows in one of them. -/
def Logs.put (logs : Logs) (name : Text) (entries : List LogEntry) : Logs :=
  fun other => if other = name then some entries else logs other

def refusal : StatementError := ⟨"relation does not exist, or exists already".toList, none⟩

/-- Carry a statement about a log out.  A log can only be created if it is not
    there, and everything else takes one that is. -/
def carryOut (sql : LogSql) (name : Text) (logs : Logs) :
    Except StatementError QueryResult × Logs :=
  if decide (sql = .create) = (logs name).isSome then (.error refusal, logs)
  else (.ok ⟨[]⟩, logs.put name (sql.apply (rows logs name)))

/-- A PostgreSQL database that keeps logs and nothing else. -/
def database : Database Logs where
  execute s logs :=
    match aim? s with
    | some (sql, name) => carryOut sql name logs
    | none => (.ok ⟨[]⟩, logs)
  lookUp r logs := (.ok (logs (r.qualified .pg)).isSome, logs)
  askSchema logs := (.ok "public".toList, logs)
  readClock logs := (⟨0, 0⟩, logs)

/-- To put entries into one log leaves the others alone. -/
theorem rows_put (logs : Logs) (name : Text) (entries : List LogEntry) (other : Text) :
    rows (logs.put name entries) other = if other = name then entries else rows logs other := by
  unfold rows Logs.put
  split
  · rfl
  · rfl

/-- What is answered does to the rows what the statement means. -/
theorem rows_carryOut_of_answered {sql : LogSql} {name : Text} {logs after : Logs}
    {answer : QueryResult} (h : carryOut sql name logs = (.ok answer, after)) (other : Text) :
    rows after other = if other = name then sql.apply (rows logs other) else rows logs other := by
  unfold carryOut at h
  split at h
  · injection h with hanswer
    injection hanswer
  · obtain ⟨-, rfl⟩ := Prod.mk.inj h
    rw [rows_put]
    split
    · next hsame => rw [hsame]
    · rfl

/-- What is refused does nothing. -/
theorem eq_of_carryOut_refused {sql : LogSql} {name : Text} {logs after : Logs}
    {e : StatementError} (h : carryOut sql name logs = (.error e, after)) : after = logs := by
  unfold carryOut at h
  split at h
  · obtain ⟨-, rfl⟩ := Prod.mk.inj h
    rfl
  · injection h with hanswer
    injection hanswer

/-- A statement that is about no log is answered and changes nothing. -/
theorem execute_of_aim?_eq_none {s : Statement} (h : aim? s = none) (logs : Logs) :
    database.execute s logs = (.ok ⟨[]⟩, logs) := by
  show (match aim? s with
    | some (sql, name) => carryOut sql name logs
    | none => (.ok ⟨[]⟩, logs)) = _
  rw [h]

/-- A statement that is understood is carried out. -/
theorem execute_of_aim?_eq_some {s : Statement} {sql : LogSql} {name : Text}
    (h : aim? s = some (sql, name)) (logs : Logs) :
    database.execute s logs = carryOut sql name logs := by
  show (match aim? s with
    | some (sql, name) => carryOut sql name logs
    | none => (.ok ⟨[]⟩, logs)) = _
  rw [h]

/-- A command is read as what it means, unless it only asks. -/
theorem aim?_command (schema name : Text) (command : LogCommand) :
    aim? ((command.sql schema).statement .pg name)
      = match command.sql schema with
        | .select _ => none
        | sql => some (sql, name) := by
  cases command with
  | create => exact aim?_statement rfl
  | insert e =>
    -- an expiry is one more value that is bound
    obtain ⟨owner, entrySchema, table, createdOn, expires⟩ := e
    cases expires with
    | none => exact aim?_statement rfl
    | some time => exact aim?_statement rfl
  | delete table => exact aim?_statement rfl
  | deleteNamed table => exact aim?_statement rfl
  | rename old new => exact aim?_statement rfl
  | listTables => rfl
  | listExpired cutoff => rfl

/-- The database keeps logs of any name. -/
theorem keepsLogs (log : Text) : KeepsLogs database .pg log rows where
  answered {schema command state after answer} h name := by
    cases command with
    | create | insert e | delete table | deleteNamed table | rename old new =>
      rw [execute_of_aim?_eq_some (aim?_command schema _ _)] at h
      exact rows_carryOut_of_answered h name
    | listTables | listExpired cutoff =>
      -- a listing leaves the logs as they are
      rw [execute_of_aim?_eq_none (aim?_command schema _ _)] at h
      obtain ⟨-, rfl⟩ := Prod.mk.inj h
      exact (ite_self _).symm
  refused {schema command state after e} h name := by
    cases command with
    | create | insert e | delete table | deleteNamed table | rename old new =>
      rw [execute_of_aim?_eq_some (aim?_command schema _ _)] at h
      rw [eq_of_carryOut_refused h]
    | listTables | listExpired cutoff =>
      rw [execute_of_aim?_eq_none (aim?_command schema _ _)] at h
      obtain ⟨-, rfl⟩ := Prod.mk.inj h
      rfl
  dropIfExists r state name := .inl (by rw [execute_of_aim?_eq_none rfl])
  schemasWithLog state name := by rw [execute_of_aim?_eq_none rfl]
  listIndexes r state name := by rw [execute_of_aim?_eq_none rfl]
  renameIndex r index newIndex state name := by rw [execute_of_aim?_eq_none rfl]
  lookUp _ _ _ := rfl
  askSchema _ _ := rfl
  readClock _ _ := rfl

/-! ## §3. A table that is created and renamed -/

def noLogs : Logs := fun _ => none

/-- A session that has done nothing yet. -/
def session : Session := PlainDatabase.newSession "public".toList

def journal : Journal := Session.journalOf (PlainDatabase.context "public".toList)

def script : Text :=
  "CREATE TABLE t (i int); DROP TABLE IF EXISTS u; ALTER TABLE t RENAME TO u".toList

def t : TableRef := .inSchema "public".toList "t".toList

def u : TableRef := .inSchema "public".toList "u".toList

def events : List TableEvent := [.created t, .dropped u, .renamed t u]

/-- The session with the events recorded. -/
def recorded : Session :=
  { session with registry := ⟨[u], [u, t], [⟨u, t⟩]⟩, phase := .postProcessing }

/-- The row that is left in the log of the schema `public`. -/
def lastRow : LogEntry :=
  ⟨"alice".toList, "public".toList, "u".toList, ⟨0, 0⟩, some ⟨7, 0⟩⟩

theorem classify_script :
    Script.classify session.dialect session.defaultSchema script = .ok ⟨events⟩ :=
  Script.classify_eq_ok_iff.mpr
    ⟨[⟨0, 0, .created t⟩, ⟨24, 45, .dropped u⟩, ⟨48, 48, .renamed t u⟩],
      by decide +kernel, by simp [Script.ofSightings, List.mergeSort, events]⟩

/-- The script is about no log. -/
theorem execute_script (logs : Logs) :
    database.execute (.plain script) logs = (.ok ⟨[]⟩, logs) := by
  have haim : aim? (.plain script) = none := by decide +kernel
  exact execute_of_aim?_eq_none haim logs

/-- The rows that the events of the script leave in the log. -/
theorem exists_run_events :
    ∃ logs, (Session.recordEvents true session.begun events).run database noLogs
        = (.ok recorded, logs)
      ∧ journal.logRows rows logs "public".toList = [lastRow] := by
  -- both are read off one evaluation of the run
  have hrun : ((Session.recordEvents true session.begun events).run database noLogs).1.toOption
        = some recorded
      ∧ journal.logRows rows
          ((Session.recordEvents true session.begun events).run database noLogs).2
          "public".toList = [lastRow] := by decide +kernel
  obtain ⟨hended, hrows⟩ := hrun
  exact ⟨_, Dialogue.run_eq_of_toOption_eq hended, hrows⟩

end LogDatabase

open LogDatabase in
/-- A session creates the table `t`, the table `u` is dropped, and `t` is renamed to
    `u`.  The log is left with one row, for `u`. -/
theorem History.one_log_row_of_overtaken_name :
    ∃ (turns : List (Turn Logs)) (after : Session) (logs : Logs),
      (Session.openWith .pg (PlainDatabase.context "public".toList)).run database noLogs
          = (.ok (.ok session), noLogs)
        ∧ History database session noLogs turns after logs
        ∧ (∀ t ∈ turns, t.SparesLogs database journal rows)
        ∧ journal.logRows rows logs "public".toList = [lastRow]
        ∧ journal.InOrder rows logs
        ∧ (after.serve .cleanup).Throughout database (journal.InOrder rows) logs := by
  obtain ⟨logs, hevents, hrows⟩ := exists_run_events
  have hopen : (Session.openWith .pg (PlainDatabase.context "public".toList)).run database noLogs
      = (.ok (.ok session), noLogs) := rfl
  have hquery := Session.query_run_of_classify (execute_script noLogs)
    (show QueryOptions.standard.unrecorded = false from rfl) classify_script hevents
  have history : History database session noLogs _ _ logs :=
    History.turn History.start (Session.serve_query_run hquery)
  have hspares : ∀ t ∈ ([⟨session, noLogs, noLogs, .query script .standard⟩] : List (Turn Logs)),
      t.SparesLogs database journal rows := by
    intro t ht
    rw [List.mem_singleton.mp ht]
    refine ⟨fun _ => rfl, fun sql options hrequest schema => ?_⟩
    rw [← (Request.query.inj hrequest).1, execute_script]
  obtain ⟨horder, hnext⟩ := History.one_log_row_per_table (keepsLogs _) (fun _ => rfl) hopen
    history hspares
  exact ⟨_, _, logs, hopen, history, hspares, hrows, horder,
    hnext logs .cleanup ⟨fun _ => rfl, nofun⟩⟩

end TableLedger
