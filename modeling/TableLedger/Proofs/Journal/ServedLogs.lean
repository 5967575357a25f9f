/-
  TableLedger.Proofs.Journal.ServedLogs — what a journal does to the rows of a table.

  Over a database that keeps logs and refuses nothing that is asked of a log that is
  there, the journal's ways of following drops and renames come down to what they
  do to the rows of a log.  A drop takes the rows of the table away.  A rename takes
  the rows of the new name away, gives those of the old one the new name, and then
  takes the rows of the old name away, which by then are none, unless the two names
  are one.

  Main statements:
    • `rowsFor_apply_delete`, `rowsFor_apply_rename` — the rows of a table after a
      statement,
    • `Journal.trackDropped_run`, `Journal.trackRenamed_run` — following a drop or a
      rename ends, and what the rows of every log are then.
-/

import TableLedger.Proofs.Session.LogRows

namespace TableLedger

open Catalog (localName)
open Dialogue

/-! ## §1. The rows of a table -/

/-- The rows that are for one table. -/
def rowsFor (schema table : Text) (rows : List LogEntry) : List LogEntry :=
  rows.filter fun e => e.schema = schema ∧ e.table = table

/-- The row under another name. -/
def LogEntry.named (table : Text) (e : LogEntry) : LogEntry := { e with table := table }

/-- The rows for a table are those that name it and its schema. -/
theorem mem_rowsFor_iff {schema table : Text} {rows : List LogEntry} {e : LogEntry} :
    e ∈ rowsFor schema table rows ↔ e ∈ rows ∧ e.schema = schema ∧ e.table = table := by
  simp [rowsFor]

/-- The rows for a table are picked out one by one. -/
theorem rowsFor_cons (schema table : Text) (e : LogEntry) (rest : List LogEntry) :
    rowsFor schema table (e :: rest)
      = if e.schema = schema ∧ e.table = table then e :: rowsFor schema table rest
        else rowsFor schema table rest := by
  unfold rowsFor
  rw [List.filter_cons]
  simp only [decide_eq_true_eq]

/-- A deletion takes the rows of its table and no others. -/
theorem rowsFor_apply_delete (schema table other : Text) (rows : List LogEntry) :
    rowsFor schema other (((LogCommand.delete table).sql schema).apply rows)
      = if other = table then [] else rowsFor schema other rows := by
  show (rows.filter _).filter _ = _
  rw [List.filter_filter]
  by_cases hsame : other = table
  · rw [if_pos hsame, List.filter_eq_nil_iff]
    intro e _ hkept
    simp only [LogCell.isIn, LogColumn.read, hsame, Bool.and_eq_true, decide_eq_true_eq] at hkept
    obtain ⟨⟨hschema, htable⟩, hstays⟩ := hkept
    simp [hschema, htable] at hstays
  · rw [if_neg hsame]
    refine List.filter_congr fun e _ => ?_
    by_cases hrow : e.schema = schema ∧ e.table = other
    · simp [LogCell.isIn, LogColumn.read, hrow, hsame]
    · simp [hrow]

/-- A rename gives the new name to the rows of the old one and leaves the others alone. -/
theorem apply_rename_cons (schema old new : Text) (e : LogEntry) (rest : List LogEntry) :
    ((LogCommand.rename old new).sql schema).apply (e :: rest)
      = (if e.schema = schema ∧ e.table = old then e.named new else e)
        :: ((LogCommand.rename old new).sql schema).apply rest := by
  refine congrArg (· :: _) ?_
  by_cases hrow : e.schema = schema ∧ e.table = old
  · simp [LogCell.isIn, LogColumn.read, LogColumn.write, LogEntry.named, hrow]
  · have hother : ¬([⟨.schema, schema⟩, ⟨.table, old⟩] : List LogCell).all (·.isIn e) = true := by
      simpa [LogCell.isIn, LogColumn.read] using hrow
    exact (if_neg hother).trans (if_neg hrow).symm

/-- A rename onto a name without rows hands the rows of the old name over to it. -/
theorem rowsFor_apply_rename {schema old new : Text} {rows : List LogEntry}
    (hfresh : rowsFor schema new rows = []) (other : Text) :
    rowsFor schema other (((LogCommand.rename old new).sql schema).apply rows)
      = if other = new then (rowsFor schema old rows).map (LogEntry.named new)
        else if other = old then [] else rowsFor schema other rows := by
  induction rows with
  | nil => simp [rowsFor, LogCommand.sql, LogSql.apply]
  | cons e rest ih =>
    rw [rowsFor_cons] at hfresh
    have hhead : ¬(e.schema = schema ∧ e.table = new) := by
      intro hrow
      rw [if_pos hrow] at hfresh
      injection hfresh
    rw [if_neg hhead] at hfresh
    rw [apply_rename_cons, rowsFor_cons, rowsFor_cons, rowsFor_cons, ih hfresh]
    by_cases hrow : e.schema = schema ∧ e.table = old
    · -- the row goes over to the new name
      rw [if_pos hrow, if_pos hrow]
      by_cases hnew : other = new
      · rw [if_pos hnew, if_pos hnew, if_pos ⟨hrow.1, hnew.symm⟩]
        rfl
      · have hgone : ¬((e.named new).schema = schema ∧ (e.named new).table = other) :=
          fun hother => hnew hother.2.symm
        rw [if_neg hnew, if_neg hnew, if_neg hgone]
        by_cases hold : other = old
        · rw [if_pos hold, if_pos hold]
        · have hother : ¬(e.schema = schema ∧ e.table = other) :=
            fun hsame => hold (hsame.2.symm.trans hrow.2)
          rw [if_neg hold, if_neg hold, if_neg hother]
    · -- the row stays as it is, and it does not have the new name
      rw [if_neg hrow, if_neg hrow]
      by_cases hnew : other = new
      · rw [if_pos hnew, if_pos hnew, hnew, if_neg hhead]
      · rw [if_neg hnew, if_neg hnew]
        by_cases hold : other = old
        · rw [if_pos hold, if_pos hold, hold, if_neg hrow]
        · rw [if_neg hold, if_neg hold]

/-- What following a rename does to the rows of a table: those of the new name are
    deleted, those of the old one renamed, and those of the old name deleted. -/
theorem rowsFor_follow_rename (schema old new other : Text) (rows : List LogEntry) :
    rowsFor schema other (((LogCommand.delete old).sql schema).apply
        (((LogCommand.rename old new).sql schema).apply
          (((LogCommand.delete new).sql schema).apply rows)))
      = if other = old then []
        else if other = new then (rowsFor schema old rows).map (LogEntry.named new)
        else rowsFor schema other rows := by
  have hfresh : rowsFor schema new (((LogCommand.delete new).sql schema).apply rows) = [] := by
    rw [rowsFor_apply_delete, if_pos rfl]
  rw [rowsFor_apply_delete, rowsFor_apply_rename hfresh]
  by_cases hold : other = old
  · rw [if_pos hold, if_pos hold]
  · rw [if_neg hold, if_neg hold, if_neg hold]
    by_cases hnew : other = new
    · -- the rows of the old name were not among those that were deleted first
      have hne : old ≠ new := fun heq => hold (hnew.trans heq.symm)
      rw [if_pos hnew, if_pos hnew, rowsFor_apply_delete, if_neg hne]
    · rw [if_neg hnew, if_neg hnew, rowsFor_apply_delete, if_neg hnew]

/-! ## §2. Databases -/

/-- The rows of the logs that there are; one that is not there has none. -/
def rowsOf {σ : Type} (logs : σ → Text → Option (List LogEntry)) (state : σ) (name : Text) :
    List LogEntry :=
  (logs state name).getD []

/-- A database that keeps logs and refuses nothing that is asked of them.  `logs state
    name` is the log that statements call `name`, if it is there.  A lookup says whether
    a log is there, and a log that is there serves every command but its creation. -/
structure ServesLogs {σ : Type} (db : Database σ) (d : Dialect) (log : Text)
    (logs : σ → Text → Option (List LogEntry)) : Prop where
  keeps : KeepsLogs db d log (rowsOf logs)
  lookUp : ∀ schema state, ∃ after,
    db.lookUp (.inSchema schema log) state
        = (.ok (logs state (localName d schema log)).isSome, after)
      ∧ (logs after (localName d schema log)).isSome
        = (logs state (localName d schema log)).isSome
  serves : ∀ schema (command : LogCommand) state, command ≠ .create →
    (logs state (localName d schema log)).isSome = true →
    ∃ answer after,
      db.execute ((command.sql schema).statement d (localName d schema log)) state
          = (.ok answer, after)
        ∧ (logs after (localName d schema log)).isSome = true

/-! ## §3. Journals -/

namespace Journal

variable {σ : Type} {db : Database σ} {j : Journal} {logs : σ → Text → Option (List LogEntry)}

/-- Whether the log of a schema is there. -/
def HasLog (j : Journal) (logs : σ → Text → Option (List LogEntry)) (state : σ)
    (schema : Text) : Prop :=
  (logs state (localName j.dialect schema j.logName)).isSome = true

/-- A schema without a log has no rows. -/
theorem logRows_eq_nil_of_not_hasLog {state : σ} {schema : Text} (h : ¬j.HasLog logs state schema) :
    j.logRows (rowsOf logs) state schema = [] := by
  have hnone : logs state (localName j.dialect schema j.logName) = none :=
    Option.isNone_iff_eq_none.mp (by simpa [HasLog] using h)
  unfold logRows rowsOf
  rw [hnone]
  rfl

/-- What becomes of the rows of a log that is not there does not matter, as long as it
    brings no row about. -/
theorem logRows_eq_of_not_hasLog (change : List LogEntry → List LogEntry)
    (hchange : change [] = []) {state : σ} {schema : Text} (h : ¬j.HasLog logs state schema)
    (other : Text) :
    j.logRows (rowsOf logs) state other
      = if other = schema then change (j.logRows (rowsOf logs) state other)
        else j.logRows (rowsOf logs) state other := by
  by_cases hother : other = schema
  · rw [if_pos hother, hother, logRows_eq_nil_of_not_hasLog h, hchange]
  · rw [if_neg hother]

variable (hserves : ServesLogs db j.dialect j.logName logs)

include hserves

/-- Looking for a log finds it if it is there, and changes no row. -/
theorem logExists_run (schema : Text) (state : σ) :
    ∃ found after, (j.logExists schema).run.run db state = (.ok (.ok found), after)
      ∧ (found = true ↔ j.HasLog logs state schema)
      ∧ (j.HasLog logs after schema ↔ j.HasLog logs state schema)
      ∧ ∀ other, j.logRows (rowsOf logs) after other = j.logRows (rowsOf logs) state other := by
  obtain ⟨after, hlook, hsame⟩ := hserves.lookUp schema state
  refine ⟨_, after, ?_, Iff.rfl, ?_, fun other => ?_⟩
  · have hrun : (lookingUp (j.log schema)).run db state = (.ok _, after) :=
      congrArg (fun looked => (Except.ok looked.1, looked.2)) hlook
    exact run_lift_bind_of_ok hrun
  · unfold HasLog
    rw [hsame]
  · have hrows := hserves.keeps.lookUp (j.log schema) state
      (localName j.dialect other j.logName)
    rw [show db.lookUp (j.log schema) state = _ from hlook] at hrows
    exact hrows

/-- A command on a log that is there is carried out. -/
theorem perform_run (command : LogCommand) {schema : Text} {state : σ}
    (hcommand : command ≠ .create) (hthere : j.HasLog logs state schema) :
    ∃ after, (discard (j.perform schema command)).run.run db state = (.ok (.ok ()), after)
      ∧ j.HasLog logs after schema
      ∧ ∀ other, j.logRows (rowsOf logs) after other
        = if other = schema then (command.sql schema).apply (j.logRows (rowsOf logs) state other)
          else j.logRows (rowsOf logs) state other := by
  obtain ⟨answer, after, hexecute, hstays⟩ := hserves.serves schema command state hcommand hthere
  rw [← LogCommand.statement_eq] at hexecute
  refine ⟨after, ?_, hstays, hserves.keeps.rows_of_answered hexecute⟩
  have hrun : (executing (command.statement j.dialect schema j.logName)).run db state
      = (.ok (.ok answer), after) := by
    rw [run_executing, hexecute]
  have hperform : (j.perform schema command).run.run db state = (.ok (.ok answer), after) :=
    run_lift_bind_of_ok hrun
  exact run_bind_of_ok hperform

/-- Following a drop ends, and deletes the rows of the table. -/
theorem trackDropped_run (schema table : Text) (state : σ) :
    ∃ found final, (j.trackDropped schema table).run.run db state = (.ok (.ok found), final)
      ∧ ∀ other, j.logRows (rowsOf logs) final other
        = if other = schema then
            ((LogCommand.delete table).sql schema).apply (j.logRows (rowsOf logs) state other)
          else j.logRows (rowsOf logs) state other := by
  obtain ⟨found, asked, hfind, hfound, hstays, hsame⟩ := logExists_run hserves schema state
  cases found with
  | false =>
    -- a log that is not there has no row to delete
    have hnone : ¬j.HasLog logs state schema := fun hthere => nomatch hfound.mpr hthere
    refine ⟨false, asked, run_bind_of_ok hfind, fun other => ?_⟩
    rw [hsame]
    exact logRows_eq_of_not_hasLog ((LogCommand.delete table).sql schema).apply rfl hnone other
  | true =>
    have hthere : j.HasLog logs asked schema := hstays.mpr (hfound.mp rfl)
    obtain ⟨final, hdelete, -, hrows⟩ :=
      perform_run hserves (.delete table) nofun hthere
    refine ⟨true, final, ?_, fun other => ?_⟩
    · exact (run_bind_of_ok hfind).trans (run_bind_of_ok hdelete)
    · rw [hrows, hsame]

/-- Following a rename ends.  The rows of the new name are deleted, and those of the
    old one renamed. -/
theorem trackRenamed_run (schema old new : Text) (state : σ) :
    ∃ found final, (j.trackRenamed schema old new).run.run db state = (.ok (.ok found), final)
      ∧ ∀ other, j.logRows (rowsOf logs) final other
        = if other = schema then
            ((LogCommand.rename old new).sql schema).apply
              (((LogCommand.delete new).sql schema).apply (j.logRows (rowsOf logs) state other))
          else j.logRows (rowsOf logs) state other := by
  obtain ⟨found, asked, hfind, hfound, hstays, hsame⟩ := logExists_run hserves schema state
  cases found with
  | false =>
    -- without a log there are no rows, and neither command makes any
    have hnone : ¬j.HasLog logs state schema := fun hthere => nomatch hfound.mpr hthere
    refine ⟨false, asked, run_bind_of_ok hfind, fun other => ?_⟩
    rw [hsame]
    exact logRows_eq_of_not_hasLog (fun rows =>
      ((LogCommand.rename old new).sql schema).apply
        (((LogCommand.delete new).sql schema).apply rows)) rfl hnone other
  | true =>
    have hthere : j.HasLog logs asked schema := hstays.mpr (hfound.mp rfl)
    obtain ⟨cleared, hdelete, hcleared, hdeleted⟩ :=
      perform_run hserves (.delete new) nofun hthere
    obtain ⟨final, hrename, -, hrenamed⟩ :=
      perform_run hserves (.rename old new) nofun hcleared
    refine ⟨true, final, ?_, fun other => ?_⟩
    · exact (run_bind_of_ok hfind).trans
        ((run_bind_of_ok hdelete).trans (run_bind_of_ok hrename))
    · rw [hrenamed]
      by_cases hother : other = schema
      · rw [if_pos hother, if_pos hother, hdeleted, if_pos hother, hsame]
      · rw [if_neg hother, if_neg hother, hdeleted, if_neg hother, hsame]

end Journal

end TableLedger
