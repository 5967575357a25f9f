/-
  TableLedger.Proofs.Session.RenamedRow — the row of a renamed table.

  A rename is followed in three steps: the rows of the new name are deleted, those of
  the old name are renamed, and the rows of the old name are deleted.  The last step
  is for what the second one leaves, which is nothing.  But if the two names have the
  same canonical form, as when only the case of a letter changes, the first step
  deletes the row that is to be kept.

  Main statement:
    • `Session.row_kept_by_rename_iff` — a rename keeps the row of its table if and
      only if it changes the canonical name.
-/

import TableLedger.Proofs.Session.LedgerDatabase
import TableLedger.Proofs.Session.RowOrigin

namespace TableLedger

open Dialogue

/-! ## §1. Renames -/

namespace Session

variable {σ : Type} {db : Database σ} {s : Session} {logs : σ → Text → Option (List LogEntry)}
  (hserves : ServesLogs db s.dialect s.journal.logName logs)

include hserves

/-- **Renames and the row of their table.**  Take any rename that a script comes to,
    and a log that holds one row for the table when the events before it have been
    recorded.  The rename stays in its schema.  When it has been followed, the log
    holds that row under the new name, and none for the old one, if and only if the
    two names differ.  If they are the same, the row is lost. -/
theorem row_kept_by_rename_iff {t : Session} {temporary : Bool} {script : Text}
    {before later : List TableEvent} {old new : TableRef} {executed found left : σ}
    {row : LogEntry}
    (hclassify : Script.classify s.dialect s.defaultSchema script
      = .ok ⟨before ++ .renamed old new :: later⟩)
    (hbefore : (recordEvents temporary s.begun before).run db executed = (.ok t, found))
    (hrow : rowsFor old.schema old.table (s.journal.logRows (rowsOf logs) found old.schema)
      = [row])
    (hleft : ((recordEvents temporary t [.renamed old new]).run db found).2 = left) :
    (old.isLocal = true ∧ new.isLocal = true ∧ new.schema = old.schema)
      ∧ ((rowsFor new.schema new.table (s.journal.logRows (rowsOf logs) left new.schema)
              = [row.named new.table]
            ∧ (old ≠ new →
              rowsFor old.schema old.table (s.journal.logRows (rowsOf logs) left old.schema) = []))
          ↔ old ≠ new)
      ∧ (old = new →
          rowsFor new.schema new.table (s.journal.logRows (rowsOf logs) left new.schema) = []) := by
  have hstays : (TableEvent.renamed old new).RenamesInPlace :=
    Script.renamesInPlace_of_classify hclassify _ (List.mem_append_right _ List.mem_cons_self)
  have hold : old.isLocal = true := hstays.1
  have hnew : new = old.withName new.table := hstays.2
  have hschema : new.schema = old.schema := by rw [hnew]; rfl
  -- the events before the rename change the registry only
  obtain rfl : t = s.begun.afterEvents before :=
    (recordEvents_ensures temporary before s.begun).of_run_eq hbefore
  have hrows : s.journal.logRows (rowsOf logs) left old.schema
      = (TableEvent.renamed old new).carry old.schema
          (s.journal.logRows (rowsOf logs) found old.schema) := by
    rw [← hleft, recordEvents_singleton_run]
    exact follow_rows (s := { s.begun.afterEvents before with
        registry := (s.begun.afterEvents before).registry.record (.renamed old new) })
      hserves hstays nofun found old.schema
  have hcarried := fun name => rowsFor_carry old.schema name (.renamed old new)
    (s.journal.logRows (rowsOf logs) found old.schema)
  have hlost : old = new →
      rowsFor new.schema new.table (s.journal.logRows (rowsOf logs) left new.schema) = [] := by
    intro hsame
    rw [hschema, hrows, hcarried, ← hsame]
    simp [TableEvent.rowSource?]
  refine ⟨⟨hold, by rw [hnew]; exact hold, hschema⟩, ⟨fun hkept hsame => ?_, fun hne => ?_⟩, hlost⟩
  · rw [hlost hsame] at hkept
    injection hkept.1
  · -- the two tables differ in nothing but their names
    have hname : new.table ≠ old.table := by
      intro hname
      rw [hname] at hnew
      exact hne hnew.symm
    refine ⟨?_, fun _ => ?_⟩
    · rw [hschema, hrows, hcarried]
      simp [TableEvent.rowSource?, hname, hrow]
    · rw [hrows, hcarried]
      simp [TableEvent.rowSource?]

end Session

/-! ## §2. Two sessions of SQL Server -/

namespace LoggedTable

open GrudgingDatabase (listing)

def u : TableRef := .inSchema "dbo".toList "u".toList

def renameToU : Text := "EXEC sp_rename 'dbo.t', 'u'".toList

/-- A script that changes the case of the name. -/
def renameToCapital : Text := "EXEC sp_rename 'dbo.t', 'T'".toList

theorem classify_renameToU :
    Script.classify (listing [t]).dialect (listing [t]).defaultSchema renameToU
      = .ok ⟨[.renamed t u]⟩ := by decide +kernel

theorem classify_renameToCapital :
    Script.classify (listing [t]).dialect (listing [t]).defaultSchema renameToCapital
      = .ok ⟨[.renamed t t]⟩ := by decide +kernel

/-- The database when the session has renamed the table. -/
def renamedTo (new : TableRef) : Ledger :=
  ((Session.recordEvents true (listing [t]).begun [.renamed t new]).run database withRow).2

/-- A session that has created the table renames it. -/
theorem query_rename {script : Text} {new : TableRef} {after : Session}
    (haim : LedgerDatabase.aim? .ms (.plain script) = none)
    (hclassify : Script.classify (listing [t]).dialect (listing [t]).defaultSchema script
      = .ok ⟨[.renamed t new]⟩)
    (hended : ((Session.recordEvents true (listing [t]).begun [.renamed t new]).run database
      withRow).1.toOption = some after) :
    ((listing [t]).query script .standard).run database withRow
      = (.ok (.ok (some ⟨[]⟩), { after with phase := .idle }), renamedTo new) :=
  Session.query_run_of_classify (execute_plain haim withRow)
    (show QueryOptions.standard.unrecorded = false from rfl) hclassify
    (run_eq_of_toOption_eq hended)

end LoggedTable

open LoggedTable GrudgingDatabase in
/-- A table that is created and renamed to another name keeps its row. -/
theorem Session.row_kept_by_rename_to_other :
    ∃ (s after : Session) (final : Ledger),
      ((listing []).query createT .standard).run database noLedger
          = (.ok (.ok (some ⟨[]⟩), s), withRow)
        ∧ (s.query renameToU .standard).run database withRow
          = (.ok (.ok (some ⟨[]⟩), after), final)
        ∧ rowsFor u.schema u.table (s.journal.logRows (rowsOf Ledger.logs) final u.schema)
          = [row.named u.table]
        ∧ rowsFor t.schema t.table (s.journal.logRows (rowsOf Ledger.logs) final t.schema)
          = [] := by
  have hended : ((recordEvents true (listing [t]).begun [.renamed t u]).run database
      withRow).1.toOption = some { listing [u] with
        registry := ⟨[u], [t], [⟨u, t⟩]⟩, phase := .postProcessing } := by decide +kernel
  have hquery := query_rename (by decide +kernel) classify_renameToU hended
  have hclassify : Script.classify (listing [t]).dialect (listing [t]).defaultSchema renameToU
      = .ok ⟨[] ++ .renamed t u :: []⟩ := classify_renameToU
  have hbefore : (recordEvents true (listing [t]).begun []).run database withRow
      = (.ok (listing [t]).begun, withRow) := rfl
  obtain ⟨-, hkept, -⟩ := row_kept_by_rename_iff serves hclassify hbefore rowsFor_withRow
    (show _ = renamedTo u from rfl)
  have hne : t ≠ u := by decide
  obtain ⟨hrow, hnone⟩ := hkept.mpr hne
  exact ⟨_, _, _, query_createT, hquery, hrow, hnone hne⟩

open LoggedTable GrudgingDatabase in
/-- A table that is created and renamed so that only the case of its name changes
    loses its row. -/
theorem Session.row_lost_by_rename_to_capital :
    ServesLogs database .ms (listing []).journal.logName Ledger.logs
      ∧ ∃ (s after : Session) (final : Ledger),
        ((listing []).query createT .standard).run database noLedger
            = (.ok (.ok (some ⟨[]⟩), s), withRow)
          ∧ rowsFor t.schema t.table (s.journal.logRows (rowsOf Ledger.logs) withRow t.schema)
            = [row]
          ∧ Script.classify s.dialect s.defaultSchema renameToCapital = .ok ⟨[.renamed t t]⟩
          ∧ (s.query renameToCapital .standard).run database withRow
            = (.ok (.ok (some ⟨[]⟩), after), final)
          ∧ s.journal.logRows (rowsOf Ledger.logs) final t.schema = [] := by
  have hended : ((recordEvents true (listing [t]).begun [.renamed t t]).run database
      withRow).1.toOption = some { listing [t] with
        registry := ⟨[t], [t], [⟨t, t⟩]⟩, phase := .postProcessing } := by decide +kernel
  have hquery := query_rename (by decide +kernel) classify_renameToCapital hended
  exact ⟨serves, _, _, _, query_createT, rowsFor_withRow, classify_renameToCapital, hquery,
    by decide +kernel⟩

end TableLedger
