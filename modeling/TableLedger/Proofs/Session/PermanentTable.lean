/-
  TableLedger.Proofs.Session.PermanentTable — tables that are created to stay.

  A query may ask for the tables that it creates to stay.  The session then writes no
  row for them, which leaves the rows of their names as they are.  If an earlier
  table of the name was logged, and went away without the session following it, its
  row is still there, and the new table expires in its place.

  Main statement:
    • `Session.expires_of_permanent_iff` — which tables that are created to stay have
      a row that expires.
-/

import TableLedger.Proofs.Journal.Housekeeping
import TableLedger.Proofs.Script.Mention
import TableLedger.Proofs.Session.LedgerDatabase
import TableLedger.Proofs.Session.RowOrigin

namespace TableLedger

open Dialogue

/-! ## §1. Tables that are created to stay -/

/-- A query whose script was executed and classified has recorded its events. -/
theorem Session.recordEvents_run_of_query {σ : Type} {db : Database σ} {s after : Session}
    {sql : Text} {options : QueryOptions} {rows : QueryResult}
    {answer : Except Error (Option QueryResult)} {c : Classification}
    {state executed final : σ} (hexecute : db.execute (.plain sql) state = (.ok rows, executed))
    (hrecorded : options.unrecorded = false)
    (hclassify : Script.classify s.dialect s.defaultSchema sql = .ok c)
    (hquery : (s.query sql options).run db state = (.ok (answer, after), final)) :
    ∃ last, (recordEvents options.temporary s.begun c.events).run db executed
      = (.ok last, final) := by
  unfold query at hquery
  rw [run_bind_of_ok (run_executing db (.plain sql) state), hexecute] at hquery
  simp only [hrecorded, Bool.false_eq_true, if_false] at hquery
  obtain ⟨⟨result, last⟩, posted, hpost, hlast⟩ := run_bind_eq_ok hquery
  obtain ⟨-, rfl⟩ := Prod.mk.inj hlast
  unfold postProcess at hpost
  simp only [dialect] at hclassify hpost
  simp only [hclassify] at hpost
  obtain ⟨recorded, middle, hevents, hdone⟩ := run_bind_eq_ok hpost
  obtain ⟨-, rfl⟩ := Prod.mk.inj hdone
  exact ⟨recorded, hevents⟩

/-- **Tables that are created to stay and expire all the same.**  A script is executed
    and recorded by a session whose created tables are to stay, and the last of its
    events that is about the table `table` of the session's own database creates it.
    Afterwards the log of its schema has a row for the table that expires if and only
    if it had one, when the script had been executed, for the table from which the
    events before the creation would have brought the row.  So it has none if one of
    them drops the table, and if none of them is about it, the rows of an earlier
    table of that name are still there. -/
theorem Session.expires_of_permanent_iff {σ : Type} {db : Database σ} {s after : Session}
    {logs : σ → Text → Option (List LogEntry)} {sql : Text} {options : QueryOptions}
    {rows : QueryResult} {answer : Except Error (Option QueryResult)}
    {before later : List TableEvent} {table : TableRef} {state executed final : σ}
    (hserves : ServesLogs db s.dialect s.journal.logName logs)
    (hexecute : db.execute (.plain sql) state = (.ok rows, executed))
    (hpermanent : options.temporary = false) (hrecorded : options.unrecorded = false)
    (hclassify : Script.classify s.dialect s.defaultSchema sql
      = .ok ⟨before ++ .created table :: later⟩)
    (hlocal : table.isLocal = true) (hlast : ∀ event ∈ later, table ∉ event.tables)
    (hquery : (s.query sql options).run db state = (.ok (answer, after), final)) :
    Expires table.schema table.table (s.journal.logRows (rowsOf logs) final table.schema)
      ↔ ∃ origin, rowOrigin? table.schema before table.table = some origin
        ∧ Expires table.schema origin
            (s.journal.logRows (rowsOf logs) executed table.schema) := by
  have hstays := Script.renamesInPlace_of_classify hclassify
  obtain ⟨last, hevents⟩ := recordEvents_run_of_query hexecute hrecorded hclassify hquery
  rw [hpermanent] at hevents
  have hcarried : s.journal.logRows (rowsOf logs) final table.schema = _ :=
    recordEvents_rows (before ++ .created table :: later) s.begun hserves hstays hevents
      table.schema
  -- neither the creation nor anything after it moves the rows of the table
  have horigin : rowOrigin? table.schema (before ++ .created table :: later) table.table
      = rowOrigin? table.schema before table.table := by
    have hlater : rowOrigin? table.schema later table.table = some table.table :=
      rowOrigin?_of_not_mem_tables
        (fun event hevent => hstays event
          (List.mem_append_right _ (List.mem_cons_of_mem _ hevent))) hlocal hlast
    rw [rowOrigin?_append, rowOrigin?_cons, hlater]
    rfl
  rw [hcarried, expires_foldl_carry_iff, horigin]
  rfl

/-! ## §2. Two sessions of SQL Server -/

namespace LoggedTable

open GrudgingDatabase (listing)

def recreateT : Text := "DROP TABLE IF EXISTS dbo.t; CREATE TABLE dbo.t (id int)".toList

/-- The session that has created the table, once it has created it again. -/
def recreated : Session :=
  { listing [t] with registry := ⟨[t], [t], []⟩, phase := .postProcessing }

theorem classify_recreateT :
    Script.classify (listing [t]).dialect (listing [t]).defaultSchema recreateT
      = .ok ⟨[.dropped t, .created t]⟩ :=
  Script.classify_eq_ok_iff.mpr ⟨[⟨28, 28, .created t⟩, ⟨0, 21, .dropped t⟩],
    by decide +kernel, by simp [Script.ofSightings, List.mergeSort]⟩

theorem classify_createT_again :
    Script.classify (listing [t]).dialect (listing [t]).defaultSchema createT
      = .ok ⟨[.created t]⟩ := by decide +kernel

/-- The session creates the table once more, and this time to stay. -/
theorem query_createT_permanent :
    ((listing [t]).query createT .permanent).run database withRow
      = (.ok (.ok (some ⟨[]⟩), listing [t]), withRow) :=
  Session.query_run_of_classify (execute_plain aim?_createT withRow)
    (show QueryOptions.permanent.unrecorded = false from rfl) classify_createT_again rfl

end LoggedTable

open LoggedTable GrudgingDatabase in
/-- A table that is dropped and created by one script, to stay, has no row that
    expires. -/
theorem Session.not_expires_of_recreated :
    ∃ (s after : Session) (final : Ledger),
      ((listing []).query createT .standard).run database noLedger
          = (.ok (.ok (some ⟨[]⟩), s), withRow)
        ∧ (s.query recreateT .permanent).run database withRow
          = (.ok (.ok (some ⟨[]⟩), after), final)
        ∧ ¬Expires t.schema t.table (s.journal.logRows (rowsOf Ledger.logs) final t.schema) := by
  have hexecute := execute_plain (show LedgerDatabase.aim? .ms (.plain recreateT) = none by
    decide +kernel) withRow
  have hended : ((recordEvents false (listing [t]).begun [.dropped t, .created t]).run database
      withRow).1.toOption = some recreated := by decide +kernel
  have hquery := query_run_of_classify hexecute
    (show QueryOptions.permanent.unrecorded = false from rfl) classify_recreateT
    (run_eq_of_toOption_eq hended)
  have hclassify : Script.classify (listing [t]).dialect (listing [t]).defaultSchema recreateT
      = .ok ⟨[.dropped t] ++ .created t :: []⟩ := classify_recreateT
  have hexpires := expires_of_permanent_iff serves hexecute rfl rfl hclassify rfl nofun hquery
  refine ⟨_, _, _, query_createT, hquery, fun h => ?_⟩
  -- the drop deletes the row before the table is created
  obtain ⟨origin, horigin, -⟩ := hexpires.mp h
  have hnone : rowOrigin? t.schema [.dropped t] t.table = none := by decide
  rw [hnone] at horigin
  injection horigin

open LoggedTable GrudgingDatabase in
/-- A session creates a table for a time, the table goes away without the session
    following it, and the session creates it again, to stay.  The log still says that
    it expires, and housekeeping eight days later drops it. -/
theorem Session.expires_of_recreated_elsewhere :
    ServesLogs database .ms (listing []).journal.logName Ledger.logs
      ∧ ∃ (turns : List (Turn Ledger)) (s after : Session) (final : Ledger),
        (openWith .ms serverContext).run database noLedger = (.ok (.ok (listing [])), noLedger)
          ∧ History database (listing []) noLedger turns s withRow
          ∧ (s.query createT .permanent).run database withRow
            = (.ok (.ok (some ⟨[]⟩), after), final)
          ∧ Script.classify s.dialect s.defaultSchema createT = .ok ⟨[.created t]⟩
          ∧ Expires t.schema t.table (s.journal.logRows (rowsOf Ledger.logs) final t.schema)
          ∧ ∃ later, (s.journal.purgeExpired t.schema).run.run database
              { final with now := ⟨8, 0⟩ } = (.ok (.ok 1), later) := by
  have hexpires : Expires t.schema t.table
      ((listing [t]).journal.logRows (rowsOf Ledger.logs) withRow t.schema) := by
    unfold Expires
    rw [rowsFor_withRow]
    exact ⟨row, List.mem_cons_self, rfl⟩
  have hpurged : (((listing [t]).journal.purgeExpired t.schema).run.run database
      { withRow with now := ⟨8, 0⟩ }).1.toOption.bind Except.toOption = some 1 := by
    decide +kernel
  exact ⟨serves, _, _, _, _, openWith_serverContext,
    History.turn History.start (serve_query_run query_createT), query_createT_permanent,
    classify_createT_again, hexpires, _, Journal.run_of_toOption hpurged⟩

end TableLedger
