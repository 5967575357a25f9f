/-
  TableLedger.Proofs.Journal.HealedLog — a log that names what is there.

  A table may be dropped behind the back of a session, and its rows then stay in the
  log.  Reconciling the log deletes them.  It asks the log for the tables that it names
  and looks each of them up, and deletes the rows of those of which the catalog says
  that they are not there.  Where a purge passes over a table that it cannot look up, a
  reconciliation ends there; so a failure never costs a row.

  The rows are those of a database that keeps its logs as the statements mean and whose
  catalog tells the truth when it answers.  It may refuse any call.

  Main statements:
    • `exists_reconciliation` — a reconciliation never breaks off, and what it says and
      does,
    • `ReconcileTurn.spares` — a turn takes no row of a table that is there,
    • `Rounds.healed` — what the turns of all tables leave, and how many they count,
    • `reconcile_heals` — every reconciliation spares what is there; one that is seen
      through leaves nothing else, and the next one has nothing to do.
-/

import Mathlib.Data.Finset.Card
import Mathlib.Data.List.Induction
import TableLedger.Proofs.Journal.CarefulPurge
import TableLedger.Proofs.Session.LedgerDatabase

namespace TableLedger

open Catalog (localName)
open Dialogue

/-! ## §1. Databases with logs and a catalog -/

/-- Whether the database refused the call. -/
def Exchange.isRefused : Exchange → Bool
  | .executed _ (.error _) | .lookedUp _ (.error _) | .askedSchema (.error _) => true
  | .executed _ (.ok _) | .lookedUp _ (.ok _) | .askedSchema (.ok _) | .readClock _ => false

/-- A database that keeps logs of the name `log` and has a catalog, in which `there` says
    which tables there are.  A lookup that is answered tells the truth.  A query for the
    tables that a log names is answered with each of them once.  A log that is not there
    has no rows.  Asking for tables and deleting rows makes no table come or go. -/
structure CatalogsLogs {σ : Type} (db : Database σ) (d : Dialect) (log : Text)
    (rows : σ → Text → List LogEntry) (there : σ → TableRef → Bool) : Prop where
  keeps : KeepsLogs db d log rows
  lookUp_answer : ∀ {r state present after}, db.lookUp r state = (.ok present, after) →
    present = there state r
  lookUp_there : ∀ r state t, there (db.lookUp r state).2 t = there state t
  listTables_there : ∀ schema state t,
    there (db.execute (LogCommand.listTables.statement d schema log) state).2 t = there state t
  deleteNamed_there : ∀ schema name state t,
    there (db.execute ((LogCommand.deleteNamed name).statement d schema log) state).2 t
      = there state t
  listed : ∀ {schema state listed after},
    db.execute (LogCommand.listTables.statement d schema log) state = (.ok listed, after) →
      (listed.columnTexts Catalog.tableNameColumn).Nodup
        ∧ ∀ name, name ∈ listed.columnTexts Catalog.tableNameColumn
          ↔ ∃ e ∈ rows state (localName d schema log), e.table = name
  noLog : ∀ schema state, there state (.inSchema schema log) = false →
    rows state (localName d schema log) = []

namespace Journal

variable {σ : Type} {j : Journal} {db : Database σ} {schema name : Text}

/-! ## §2. The turn of a table -/

/-- What the turn of a table comes to, and what is said in it. -/
inductive ReconcileTurn (j : Journal) (db : Database σ) (schema name : Text) (state : σ) :
    Except JournalError Bool → σ → List Exchange → Prop where
  /-- It cannot be told whether the table is there. -/
  | unknown {after : σ} {e : StatementError}
      (hlook : db.lookUp (.inSchema schema name) state = (.error e, after)) :
      ReconcileTurn j db schema name state (.error ⟨schema, .lookup, e⟩) after
        [.lookedUp (.inSchema schema name) (.error e)]
  | present {after : σ} (hlook : db.lookUp (.inSchema schema name) state = (.ok true, after)) :
      ReconcileTurn j db schema name state (.ok false) after
        [.lookedUp (.inSchema schema name) (.ok true)]
  /-- The table is not there, and the rows that name it are deleted. -/
  | cleared {looked after : σ} {deleted : QueryResult}
      (hlook : db.lookUp (.inSchema schema name) state = (.ok false, looked))
      (hdelete : db.execute (j.sent schema (.deleteNamed name)) looked = (.ok deleted, after)) :
      ReconcileTurn j db schema name state (.ok true) after
        [.lookedUp (.inSchema schema name) (.ok false),
          .executed (j.sent schema (.deleteNamed name)) (.ok deleted)]
  /-- The table is not there, and the deletion is refused. -/
  | stuck {looked after : σ} {e : StatementError}
      (hlook : db.lookUp (.inSchema schema name) state = (.ok false, looked))
      (hdelete : db.execute (j.sent schema (.deleteNamed name)) looked = (.error e, after)) :
      ReconcileTurn j db schema name state (.error ⟨schema, .delete, e⟩) after
        [.lookedUp (.inSchema schema name) (.ok false),
          .executed (j.sent schema (.deleteNamed name)) (.error e)]

/-- Whatever the database answers, the turn of a table has one of these ends. -/
theorem exists_reconcileTurn (j : Journal) (db : Database σ) (schema name : Text) (state : σ) :
    ∃ result after said, (j.reconcileTable schema name).run.Ends db state result after said
      ∧ ReconcileTurn j db schema name state result after said := by
  unfold reconcileTable
  cases hlook : db.lookUp (.inSchema schema name) state with
  | mk answered looked =>
    have hanswer := ends_answer db schema .lookup answered looked
    cases answered with
    | error e =>
      exact ⟨_, _, _, ends_lift_bind (ends_lookingUp_of_eq hlook) (ends_bind_of_error hanswer),
        .unknown hlook⟩
    | ok there =>
      cases there with
      | true =>
        exact ⟨_, _, _, ends_lift_bind (ends_lookingUp_of_eq hlook) (ends_bind_pure hanswer rfl),
          .present hlook⟩
      | false =>
        -- the rows are deleted, unless that is refused
        cases hdelete : db.execute (j.sent schema (.deleteNamed name)) looked with
        | mk answered deleted =>
          cases answered with
          | error e =>
            exact ⟨_, _, _, ends_lift_bind (ends_lookingUp_of_eq hlook) (ends_bind hanswer
              (ends_bind_of_error (ends_discard_perform hdelete))), .stuck hlook hdelete⟩
          | ok answer =>
            exact ⟨_, _, _, ends_lift_bind (ends_lookingUp_of_eq hlook) (ends_bind hanswer
              (ends_bind_pure (ends_discard_perform hdelete) rfl)), .cleared hlook hdelete⟩

/-- The one statement of a turn deletes the rows that name the table, right after the
    catalog said that it is not there. -/
theorem ReconcileTurn.of_executed {state after : σ} {result : Except JournalError Bool}
    {before behind : List Exchange} {s : Statement} {answer : Except StatementError QueryResult}
    (h : ReconcileTurn j db schema name state result after
      (before ++ .executed s answer :: behind)) :
    s = j.sent schema (.deleteNamed name)
      ∧ before = [.lookedUp (.inSchema schema name) (.ok false)] := by
  generalize hsaid : before ++ .executed s answer :: behind = said at h
  cases h with
  | unknown hlook | present hlook => simp [List.append_eq_cons_iff] at hsaid
  | cleared | stuck =>
    obtain ⟨rfl, rfl, -, -⟩ := cut_at_executed_iff.mp hsaid
    exact ⟨rfl, rfl⟩

/-! ## §3. What a reconciliation spares -/

section

variable {rows : σ → Text → List LogEntry} {there : σ → TableRef → Bool}
  {state looked middle after final : σ}

/-- Whether the table that a row of the log of a schema names is there. -/
def namesPresent (there : σ → TableRef → Bool) (state : σ) (schema : Text) (e : LogEntry) :
    Bool :=
  there state (.inSchema schema e.table)

/-- What a reconciliation leaves as it was: the catalog, the logs of other schemas, and
    the rows of the log that name a table that is there.  It only takes rows away. -/
structure Spares (j : Journal) (rows : σ → Text → List LogEntry)
    (there : σ → TableRef → Bool) (schema : Text) (state after : σ) : Prop where
  there_eq : there after = there state
  others : ∀ other, other ≠ schema → j.logRows rows after other = j.logRows rows state other
  kept : (j.logRows rows after schema).filter (namesPresent there state schema)
    = (j.logRows rows state schema).filter (namesPresent there state schema)
  sublist : (j.logRows rows after schema).Sublist (j.logRows rows state schema)

/-- A step that touches no rows and no tables spares everything. -/
theorem spares_of_eq (hthere : there after = there state)
    (hrows : ∀ other, j.logRows rows after other = j.logRows rows state other) :
    j.Spares rows there schema state after where
  there_eq := hthere
  others other _ := hrows other
  kept := by rw [hrows]
  sublist := by rw [hrows]

/-- Steps that spare other logs and tables do so together. -/
theorem Spares.trans (h : j.Spares rows there schema state middle)
    (k : j.Spares rows there schema middle after) : j.Spares rows there schema state after where
  there_eq := k.there_eq.trans h.there_eq
  others other hother := (k.others other hother).trans (h.others other hother)
  kept := by
    -- the catalog is the same, so the same rows are to be kept
    have hsame : namesPresent there middle schema = namesPresent there state schema := by
      unfold namesPresent
      rw [h.there_eq]
    rw [← hsame, k.kept, hsame, h.kept]
  sublist := k.sublist.trans h.sublist

/-- Deleting the rows of a name leaves the rows of the other names. -/
theorem apply_deleteNamed (schema name : Text) (entries : List LogEntry) :
    ((LogCommand.deleteNamed name).sql schema).apply entries
      = entries.filter fun e => decide (e.table ≠ name) := by
  refine List.filter_congr fun e _ => ?_
  rw [Bool.eq_iff_iff]
  simp [LogCell.isIn, LogColumn.read]

variable (hdb : CatalogsLogs db j.dialect j.logName rows there)

include hdb

theorem rows_of_lookUp {r : TableRef} {answered : Except StatementError Bool}
    (hlook : db.lookUp r state = (answered, after)) (other : Text) :
    j.logRows rows after other = j.logRows rows state other := by
  have hrows := hdb.keeps.lookUp r state (localName j.dialect other j.logName)
  rwa [hlook] at hrows

theorem spares_lookUp {r : TableRef} {answered : Except StatementError Bool}
    (hlook : db.lookUp r state = (answered, after)) : j.Spares rows there schema state after := by
  refine spares_of_eq (funext fun t => ?_) (rows_of_lookUp hdb hlook)
  have hthere := hdb.lookUp_there r state t
  rwa [hlook] at hthere

theorem rows_of_listTables {answered : Except StatementError QueryResult}
    (hlist : db.execute (j.sent schema .listTables) state = (answered, after)) (other : Text) :
    j.logRows rows after other = j.logRows rows state other := by
  cases answered with
  | error e => exact hdb.keeps.rows_of_refused hlist _
  | ok listed =>
    rw [logRows, hdb.keeps.rows_of_answered hlist]
    exact ite_self _

theorem spares_listTables {answered : Except StatementError QueryResult}
    (hlist : db.execute (j.sent schema .listTables) state = (answered, after)) :
    j.Spares rows there schema state after := by
  refine spares_of_eq (funext fun t => ?_) (rows_of_listTables hdb hlist)
  have hthere := hdb.listTables_there schema state t
  rwa [show db.execute (LogCommand.listTables.statement j.dialect schema j.logName) state = _
    from hlist] at hthere

/-- What is left when the rows of a name were deleted. -/
theorem rows_of_deleted {deleted : QueryResult}
    (hdelete : db.execute (j.sent schema (.deleteNamed name)) state = (.ok deleted, after))
    (other : Text) :
    j.logRows rows after other
      = if other = schema then (j.logRows rows state other).filter fun e => decide (e.table ≠ name)
        else j.logRows rows state other := by
  rw [logRows, hdb.keeps.rows_of_answered hdelete, apply_deleteNamed]
  rfl

/-- A deletion of rows leaves the tables where they are. -/
theorem there_of_deleteNamed {answered : Except StatementError QueryResult}
    (hdelete : db.execute (j.sent schema (.deleteNamed name)) state = (answered, after)) :
    there after = there state := by
  funext t
  have hthere := hdb.deleteNamed_there schema name state t
  rwa [show db.execute ((LogCommand.deleteNamed name).statement j.dialect schema j.logName) state
    = _ from hdelete] at hthere

/-- Deleting the rows of a table that is not there spares what is there. -/
theorem spares_deleteNamed {answered : Except StatementError QueryResult}
    (hdelete : db.execute (j.sent schema (.deleteNamed name)) state = (answered, after))
    (hgone : there state (.inSchema schema name) = false) :
    j.Spares rows there schema state after := by
  have hthere := there_of_deleteNamed hdb hdelete
  cases answered with
  | error e => exact spares_of_eq hthere fun other => hdb.keeps.rows_of_refused hdelete _
  | ok deleted =>
    have hrows := rows_of_deleted hdb hdelete
    refine ⟨hthere, fun other hother => ?_, ?_, ?_⟩
    · rw [hrows, if_neg hother]
    · rw [hrows, if_pos rfl, List.filter_filter]
      refine List.filter_congr fun e _ => ?_
      -- a row that names a table that is there does not name this one
      by_cases hname : e.table = name
      · simp [namesPresent, hname, hgone]
      · simp [hname]
    · rw [hrows, if_pos rfl]
      exact List.filter_sublist

/-- The turn of a table spares what is there, whether it fails or not. -/
theorem ReconcileTurn.spares {result : Except JournalError Bool} {said : List Exchange}
    (h : ReconcileTurn j db schema name state result after said) :
    j.Spares rows there schema state after := by
  cases h with
  | unknown hlook | present hlook => exact spares_lookUp hdb hlook
  | @cleared looked _ _ hlook hdelete | @stuck looked _ _ hlook hdelete =>
    have hlooked : j.Spares rows there schema state looked := spares_lookUp hdb hlook
    have hgone : there looked (.inSchema schema name) = false := by
      rw [hlooked.there_eq, ← hdb.lookUp_answer hlook]
    exact hlooked.trans (spares_deleteNamed hdb hdelete hgone)

/-- A turn that does not fail counts the table if it is not there, and then its rows are
    gone. -/
theorem ReconcileTurn.rows_of_ok {counts : Bool} {said : List Exchange}
    (h : ReconcileTurn j db schema name state (.ok counts) after said) :
    counts = !there state (.inSchema schema name)
      ∧ j.logRows rows after schema = (j.logRows rows state schema).filter fun e =>
          decide (e.table = name → there state (.inSchema schema name) = true) := by
  cases h with
  | present hlook =>
    simp [← hdb.lookUp_answer hlook, rows_of_lookUp hdb hlook]
  | @cleared looked _ _ hlook hdelete =>
    have hrows := rows_of_deleted hdb hdelete schema
    rw [if_pos rfl, rows_of_lookUp hdb hlook] at hrows
    rw [← hdb.lookUp_answer hlook, hrows]
    exact ⟨rfl, List.filter_congr fun e _ => by simp⟩

/-- Turns that all succeed leave, of the rows that name one of the tables, those of the
    tables that are there.  They count the others. -/
theorem Rounds.healed {names : List Text} {count : Nat} {said : List Exchange}
    (h : Rounds (ReconcileTurn j db schema) names state (.ok count) final said) :
    count = names.countP (fun name => !there state (.inSchema schema name))
      ∧ j.logRows rows final schema = (j.logRows rows state schema).filter fun e =>
          decide (e.table ∈ names → there state (.inSchema schema e.table) = true) := by
  generalize hresult : Except.ok count = result at h
  induction h generalizing count with
  | done state =>
    injection hresult with hcount
    simp [hcount]
  | @next name rest state middle final counts result said more hturn hrest ih =>
    cases result with
    | error e => injection hresult
    | ok others =>
      injection hresult with hcount
      obtain ⟨hothers, hrows⟩ := ih rfl
      obtain ⟨rfl, hcleared⟩ := hturn.rows_of_ok hdb
      have hsame : there middle = there state := (hturn.spares hdb).there_eq
      rw [hsame] at hothers hrows
      refine ⟨?_, ?_⟩
      · rw [hcount, hothers, List.countP_cons, Nat.add_comm]
      · rw [hrows, hcleared, List.filter_filter]
        refine List.filter_congr fun e _ => ?_
        -- a row that names this table is left if the table is there
        by_cases hname : e.table = name
        · simp +contextual [hname]
        · simp [hname]
  | stop => injection hresult

/-- Tables that are all there have their turns, and no row is deleted. -/
theorem Rounds.idle {names : List Text} {result : Except JournalError Nat} {said : List Exchange}
    (hthere : ∀ name ∈ names, there state (.inSchema schema name) = true)
    (h : Rounds (ReconcileTurn j db schema) names state result final said)
    (hanswered : ∀ call ∈ said, call.isRefused = false) :
    result = .ok 0 ∧ ∀ s answer, .executed s answer ∉ said := by
  induction h with
  | done state => exact ⟨rfl, fun _ _ => List.not_mem_nil⟩
  | @next name rest state middle final counts result said more hturn hrest ih =>
    obtain ⟨hname, hothers⟩ := List.forall_mem_cons.mp hthere
    obtain ⟨-, hmore⟩ := List.forall_mem_append.mp hanswered
    have hsame : there middle = there state := (hturn.spares hdb).there_eq
    obtain ⟨rfl, hnone⟩ := ih (hsame ▸ hothers) hmore
    cases hturn with
    | present hlook =>
      refine ⟨rfl, fun s answer hmem => ?_⟩
      obtain hmem | hmem := List.mem_append.mp hmem
      · simp at hmem
      · exact hnone s answer hmem
    | cleared hlook hdelete =>
      -- the catalog would not have told the truth
      exact absurd ((hdb.lookUp_answer hlook).trans hname) Bool.false_ne_true
  | @stop name rest state final e said hturn =>
    obtain ⟨hname, -⟩ := List.forall_mem_cons.mp hthere
    cases hturn with
    | unknown hlook => exact absurd (hanswered _ List.mem_cons_self).symm Bool.false_ne_true
    | stuck hlook hdelete =>
      exact absurd ((hdb.lookUp_answer hlook).trans hname) Bool.false_ne_true

end

/-! ## §4. The whole reconciliation -/

/-- What a reconciliation comes to, and what is said in it. -/
inductive Reconciliation (j : Journal) (db : Database σ) (schema : Text) (state : σ) :
    Except JournalError Nat → σ → List Exchange → Prop where
  /-- It cannot be told whether there is a log. -/
  | notAnswered {after : σ} {e : StatementError}
      (hlook : db.lookUp (j.log schema) state = (.error e, after)) :
      Reconciliation j db schema state (.error ⟨schema, .lookup, e⟩) after
        [.lookedUp (j.log schema) (.error e)]
  | noLog {after : σ} (hlook : db.lookUp (j.log schema) state = (.ok false, after)) :
      Reconciliation j db schema state (.ok 0) after [.lookedUp (j.log schema) (.ok false)]
  /-- The log cannot be read. -/
  | notListed {looked after : σ} {e : StatementError}
      (hlook : db.lookUp (j.log schema) state = (.ok true, looked))
      (hlist : db.execute (j.sent schema .listTables) looked = (.error e, after)) :
      Reconciliation j db schema state (.error ⟨schema, .select, e⟩) after
        [.lookedUp (j.log schema) (.ok true), .executed (j.sent schema .listTables) (.error e)]
  /-- The tables that the log names have their turns. -/
  | rounds {looked asked final : σ} {listed : QueryResult} {result : Except JournalError Nat}
      {said : List Exchange} (hlook : db.lookUp (j.log schema) state = (.ok true, looked))
      (hlist : db.execute (j.sent schema .listTables) looked = (.ok listed, asked))
      (h : Rounds (ReconcileTurn j db schema) (listed.columnTexts Catalog.tableNameColumn) asked
        result final said) :
      Reconciliation j db schema state result final
        ([.lookedUp (j.log schema) (.ok true), .executed (j.sent schema .listTables) (.ok listed)]
          ++ said)

/-- A reconciliation never breaks off. -/
theorem exists_reconciliation (j : Journal) (db : Database σ) (schema : Text) (state : σ) :
    ∃ result final said, (j.reconcile schema).run.Ends db state result final said
      ∧ Reconciliation j db schema state result final said := by
  unfold reconcile
  -- each answer of the database ends the reconciliation or leads to the next question
  cases hlook : db.lookUp (j.log schema) state with
  | mk answered looked =>
    cases answered with
    | error e =>
      exact ⟨_, _, _, ends_bind_of_error (ends_logExists hlook), .notAnswered hlook⟩
    | ok there =>
      cases there with
      | false => exact ⟨_, _, _, ends_bind_pure (ends_logExists hlook) rfl, .noLog hlook⟩
      | true =>
        cases hlist : db.execute (j.sent schema .listTables) looked with
        | mk answered asked =>
          cases answered with
          | error e =>
            exact ⟨_, _, _, ends_bind (ends_logExists hlook)
              (ends_bind_of_error (ends_loggedTables hlist)), .notListed hlook hlist⟩
          | ok listed =>
            obtain ⟨result, final, said, hends, hrounds⟩ := exists_rounds
              (show j.reconcileTables schema [] = pure 0 from rfl) (fun _ _ => rfl)
              (exists_reconcileTurn j db schema) (listed.columnTexts Catalog.tableNameColumn) asked
            exact ⟨result, final, _, ends_bind (ends_logExists hlook)
              (ends_bind (ends_loggedTables hlist) hends), .rounds hlook hlist hrounds⟩

/-- No query for the tables that a log names deletes a row. -/
theorem deleteOpening_listTables (d : Dialect) (schema log : Text) :
    Catalog.deleteOpening.isPrefixOf (LogCommand.listTables.statement d schema log).sql
      = false := by
  cases d <;> rfl

namespace Reconciliation

variable {state final : σ} {result : Except JournalError Nat} {said front back : List Exchange}
  {s : Statement} {answer : Except StatementError QueryResult}

/-- Rows are deleted right after the catalog said that the table that they name is not
    there. -/
theorem deletions (h : Reconciliation j db schema state result final said)
    (hcut : said = front ++ .executed s answer :: back)
    (hs : Catalog.deleteOpening.isPrefixOf s.sql = true) :
    ∃ (name : Text) (before : List Exchange), s = j.sent schema (.deleteNamed name)
      ∧ front = before ++ [.lookedUp (.inSchema schema name) (.ok false)] := by
  -- a deletion is not the query, so it is made in a turn
  have hquery : s ≠ j.sent schema .listTables := by
    rintro rfl
    rw [sent, deleteOpening_listTables] at hs
    exact Bool.false_ne_true hs
  cases h with
  | notAnswered hlook | noLog hlook => simp [List.cons_eq_append_iff] at hcut
  | notListed hlook hlist => exact absurd (cut_at_executed_iff.mp hcut.symm).2.1 hquery
  | rounds hlook hlist hrounds =>
    obtain ⟨rest, hopening, -⟩ | ⟨skipped, rfl, hsaid⟩ := cut_of_append_eq hcut
    · exact absurd (cut_at_executed_iff.mp hopening.symm).2.1 hquery
    · obtain ⟨name, -, _, _, came, earlier, later, before, behind, hturn, rfl, -⟩ :=
        hrounds.exists_turn_of_cut hsaid
      obtain ⟨rfl, rfl⟩ := hturn.of_executed
      exact ⟨name, _, rfl, (List.append_assoc _ _ _).symm⟩

section

variable {rows : σ → Text → List LogEntry} {there : σ → TableRef → Bool}
  (hdb : CatalogsLogs db j.dialect j.logName rows there)

include hdb

/-- Asking a log for the tables that it names spares what is there. -/
theorem spares_listing {answered : Except StatementError QueryResult} {looked asked : σ}
    (hlook : db.lookUp (j.log schema) state = (.ok true, looked))
    (hlist : db.execute (j.sent schema .listTables) looked = (answered, asked)) :
    j.Spares rows there schema state asked :=
  (spares_lookUp hdb hlook).trans (spares_listTables hdb hlist)

/-- A reconciliation spares what is there, whether it fails or not. -/
theorem spares (h : Reconciliation j db schema state result final said) :
    j.Spares rows there schema state final := by
  cases h with
  | notAnswered hlook | noLog hlook => exact spares_lookUp hdb hlook
  | notListed hlook hlist => exact spares_listing hdb hlook hlist
  | rounds hlook hlist hrounds =>
    refine (spares_listing hdb hlook hlist).trans ?_
    exact hrounds.related (fun state => spares_of_eq rfl fun _ => rfl) Spares.trans
      fun hturn => hturn.spares hdb

/-- The tables that a log names, each of them once. -/
theorem names_listed {listed : QueryResult} {looked asked : σ}
    (hlook : db.lookUp (j.log schema) state = (.ok true, looked))
    (hlist : db.execute (j.sent schema .listTables) looked = (.ok listed, asked)) :
    (listed.columnTexts Catalog.tableNameColumn).toFinset
      = ((j.logRows rows state schema).map LogEntry.table).toFinset := by
  obtain ⟨-, hnames⟩ := hdb.listed hlist
  ext name
  rw [List.mem_toFinset, List.mem_toFinset, hnames, List.mem_map,
    ← rows_of_lookUp hdb hlook schema]
  rfl

/-- One that is seen through leaves the rows of the tables that are there and no others,
    and counts the tables that are not. -/
theorem healed {count : Nat} (h : Reconciliation j db schema state (.ok count) final said) :
    count = {name ∈ ((j.logRows rows state schema).map LogEntry.table).toFinset
        | there state (.inSchema schema name) = false}.card
      ∧ j.logRows rows final schema
        = (j.logRows rows state schema).filter (namesPresent there state schema) := by
  cases h with
  | noLog hlook =>
    -- a log that is not there has no rows
    have hnone : j.logRows rows state schema = [] :=
      hdb.noLog schema state (hdb.lookUp_answer hlook).symm
    rw [rows_of_lookUp hdb hlook, hnone]
    exact ⟨rfl, rfl⟩
  | @rounds looked asked _ listed _ said hlook hlist hrounds =>
    have hasked := spares_listing hdb hlook hlist
    have hrows : j.logRows rows asked schema = j.logRows rows state schema := by
      rw [rows_of_listTables hdb hlist, rows_of_lookUp hdb hlook]
    obtain ⟨hcount, hleft⟩ := hrounds.healed hdb
    rw [hasked.there_eq] at hcount hleft
    have hnames := names_listed hdb hlook hlist
    refine ⟨?_, ?_⟩
    · -- every table is listed once, so the turns are as many as the tables
      obtain ⟨hnodup, -⟩ := hdb.listed hlist
      have hcard := List.toFinset_card_of_nodup
        (hnodup.filter fun name => !there state (.inSchema schema name))
      rw [hcount, ← hnames, List.countP_eq_length_filter, ← hcard, List.toFinset_filter]
      simp only [Bool.not_eq_true']
    · rw [hleft, hrows]
      refine List.filter_congr fun e he => ?_
      -- every row names a table that had its turn
      have hlisted : e.table ∈ listed.columnTexts Catalog.tableNameColumn := by
        rw [← List.mem_toFinset, hnames, List.mem_toFinset]
        exact List.mem_map_of_mem he
      simp [namesPresent, hlisted]

/-- One that has nothing to heal deletes nothing, unless it is refused something. -/
theorem idle (h : Reconciliation j db schema state result final said)
    (hpresent : ∀ e ∈ j.logRows rows state schema, there state (.inSchema schema e.table) = true)
    (hanswered : ∀ call ∈ said, call.isRefused = false) :
    result = .ok 0 ∧ ∀ s answer, .executed s answer ∈ said →
      Catalog.deleteOpening.isPrefixOf s.sql = false := by
  cases h with
  | notAnswered hlook => exact absurd (hanswered _ List.mem_cons_self).symm Bool.false_ne_true
  | noLog hlook => exact ⟨rfl, fun s answer hmem => by simp at hmem⟩
  | notListed hlook hlist =>
    have hrefused := hanswered _ (List.mem_cons_of_mem _ List.mem_cons_self)
    exact absurd hrefused.symm Bool.false_ne_true
  | @rounds looked asked _ listed _ said hlook hlist hrounds =>
    have hasked := spares_listing hdb hlook hlist
    -- the tables that have turns are those that the log names
    have hthere : ∀ name ∈ listed.columnTexts Catalog.tableNameColumn,
        there asked (.inSchema schema name) = true := by
      intro name hname
      rw [← List.mem_toFinset, names_listed hdb hlook hlist, List.mem_toFinset] at hname
      obtain ⟨e, he, rfl⟩ := List.mem_map.mp hname
      rw [hasked.there_eq]
      exact hpresent e he
    obtain ⟨-, hsaid⟩ := List.forall_mem_append.mp hanswered
    obtain ⟨hzero, hnone⟩ := hrounds.idle hdb hthere hsaid
    refine ⟨hzero, fun s answer hmem => ?_⟩
    obtain hmem | hmem := List.mem_append.mp hmem
    · obtain ⟨rfl, -⟩ : s = j.sent schema .listTables ∧ answer = .ok listed := by simpa using hmem
      exact deleteOpening_listTables _ _ _
    · exact absurd hmem (hnone s answer)

end

end Reconciliation

/-! ## §5. Healed logs -/

variable {rows : σ → Text → List LogEntry} {there : σ → TableRef → Bool}

/-- What makes a reconciliation heal the log of a schema without harm. -/
structure Heals (j : Journal) (db : Database σ) (rows : σ → Text → List LogEntry)
    (there : σ → TableRef → Bool) (schema : Text) (state : σ)
    (result : Except JournalError Nat) (final : σ) (said : List Exchange) : Prop where
  /-- Rows are deleted right after the catalog said that the table that they name is not
      there. -/
  deletions : ∀ {front back s answer}, said = front ++ .executed s answer :: back →
    Catalog.deleteOpening.isPrefixOf s.sql = true →
      ∃ (name : Text) (before : List Exchange), s = j.sent schema (.deleteNamed name)
        ∧ front = before ++ [.lookedUp (.inSchema schema name) (.ok false)]
  spares : j.Spares rows there schema state final
  /-- The tables are counted that the log names and that are not there. -/
  counts : ∀ {count}, result = .ok count →
    count = {name ∈ ((j.logRows rows state schema).map LogEntry.table).toFinset
      | there state (.inSchema schema name) = false}.card
  /-- The rows are left that name a table that is there. -/
  leaves : ∀ {count}, result = .ok count →
    j.logRows rows final schema
        = (j.logRows rows state schema).filter (namesPresent there state schema)
      ∧ ∀ e ∈ j.logRows rows final schema, there final (.inSchema schema e.table) = true
  /-- As long as the catalog and the log stay as they are, the next reconciliation has
      nothing to do. -/
  again : ∀ {count}, result = .ok count → ∀ later : σ, there later = there final →
    j.logRows rows later schema = j.logRows rows final schema →
      ∃ repeated last more, (j.reconcile schema).run.Ends db later repeated last more
        ∧ ((∀ call ∈ more, call.isRefused = false) →
          repeated = .ok 0 ∧ ∀ s answer, .executed s answer ∈ more →
            Catalog.deleteOpening.isPrefixOf s.sql = false)

/-- **A reconciliation heals without harm.**  Take a database that keeps logs and has a
    truthful catalog, and that may refuse any call.  A reconciliation ends in a count or in
    a failure.  It deletes rows only right after the catalog said that the table that they
    name is not there, and whether it fails or not, no row that names a table that is there
    is touched, nor any row of another log.  One that is seen through leaves no other rows
    and counts the tables whose rows it deleted, each of them once; and if nothing changes
    in between and nothing is refused, the next one counts none and deletes nothing. -/
theorem reconcile_heals (hdb : CatalogsLogs db j.dialect j.logName rows there) (schema : Text)
    (state : σ) :
    ∃ result final said, (j.reconcile schema).run.Ends db state result final said
      ∧ j.Heals db rows there schema state result final said := by
  obtain ⟨result, final, said, hends, hrun⟩ := exists_reconciliation j db schema state
  have hspares := hrun.spares hdb
  have hpresent : ∀ {count}, result = .ok count → ∀ e ∈ j.logRows rows final schema,
      there final (.inSchema schema e.table) = true := by
    rintro count rfl e he
    rw [(hrun.healed hdb).2] at he
    rw [hspares.there_eq]
    exact (List.mem_filter.mp he).2
  refine ⟨result, final, said, hends, ?_⟩
  exact {
    deletions := hrun.deletions
    spares := hspares
    counts := fun hcounted => ((hcounted ▸ hrun).healed hdb).1
    leaves := fun hcounted => ⟨((hcounted ▸ hrun).healed hdb).2, hpresent hcounted⟩
    again := fun hcounted later hthere hrows => by
      obtain ⟨repeated, last, more, hrepeats, hidle⟩ := exists_reconciliation j db schema later
      refine ⟨repeated, last, more, hrepeats, hidle.idle hdb ?_⟩
      rw [hthere, hrows]
      exact hpresent hcounted }

end Journal

/-! ## §6. Two tables that are missing -/

namespace MissingTables

open LedgerDatabase (carryOutOn execute_command carryOut_of_answered)
open LogDatabase (carryOut)

variable (d : Dialect) (log : Text) (missing : List Text)

/-- Whether a table is there: a log if there is a ledger of it, and any other table unless
    it is missing. -/
def isThere (ledger : Ledger) (r : TableRef) : Bool :=
  if r.table = log then (ledger.logs (r.qualified d)).isSome else !missing.contains r.table

/-- A database that serves the logs that are named `log`, and whose catalog says of some
    tables that they are missing. -/
def database : Database Ledger :=
  { LedgerDatabase.database d log with
    lookUp := fun r ledger => (.ok (isThere d log missing ledger r), ledger) }

/-- The database keeps its logs. -/
theorem keepsLogs : KeepsLogs (database d log missing) d log (rowsOf Ledger.logs) where
  answered h name := (LedgerDatabase.keepsLogs d log).answered h name
  refused h name := (LedgerDatabase.keepsLogs d log).refused h name
  dropIfExists := (LedgerDatabase.keepsLogs d log).dropIfExists
  schemasWithLog := (LedgerDatabase.keepsLogs d log).schemasWithLog
  listIndexes := (LedgerDatabase.keepsLogs d log).listIndexes
  renameIndex := (LedgerDatabase.keepsLogs d log).renameIndex
  lookUp _ _ _ := rfl
  askSchema _ _ := rfl
  readClock _ _ := rfl

/-- A command is carried out on the log of its schema. -/
theorem execute_command_eq (schema : Text) (command : LogCommand) (ledger : Ledger) :
    (database d log missing).execute (command.statement d schema log) ledger
      = carryOutOn (command.sql schema) (localName d schema log) ledger := by
  rw [LogCommand.statement_eq]
  exact execute_command d log schema _ command ledger

/-- A log is there after a statement if it was before, unless the statement creates it. -/
theorem isThere_carryOutOn {sql : LogSql} (hsql : sql ≠ .create) (name : Text) (ledger : Ledger)
    (r : TableRef) :
    isThere d log missing (carryOutOn sql name ledger).2 r = isThere d log missing ledger r := by
  have hsame : ∀ other, ((carryOut sql name ledger.logs).2 other).isSome
      = (ledger.logs other).isSome := by
    intro other
    unfold carryOut
    split
    · rfl
    · next hserved =>
      by_cases hother : other = name
      · have hthere : (ledger.logs name).isSome = true := by
          simpa [hsql, Option.isSome_iff_ne_none] using hserved
        simp [LogDatabase.Logs.put, hother, hthere]
      · simp [LogDatabase.Logs.put, hother]
  unfold isThere
  split
  · exact hsame _
  · rfl

/-- An answer that lists tables names each of them once. -/
theorem nodup_eraseDups (names : List Text) : names.eraseDups.Nodup := by
  induction names using List.reverseRecOn with
  | nil => exact List.nodup_nil
  | append_singleton names name ih =>
    rw [List.eraseDups_append]
    by_cases hname : name ∈ names
    · have hnone : [name].removeAll names = [] := by simp [List.removeAll, hname]
      rwa [hnone, List.eraseDups_nil, List.append_nil]
    · have hone : [name].removeAll names = [name] := by simp [List.removeAll, hname]
      rw [hone]
      refine List.nodup_append.mpr ⟨ih, List.nodup_singleton name, fun other hother _ hlast => ?_⟩
      rw [List.mem_eraseDups] at hother
      rw [List.mem_singleton.mp hlast]
      rintro rfl
      exact hname hother

/-- Names that are listed are read back. -/
theorem columnTexts_listing (names : List Text) :
    QueryResult.columnTexts
        ⟨names.map fun name => .object [(Catalog.tableNameColumn, .text name)]⟩
        Catalog.tableNameColumn = names := by
  unfold QueryResult.columnTexts
  rw [List.filterMap_map]
  exact List.filterMap_some

/-- A query lists the tables that the rows name, each of them once. -/
theorem columnTexts_of_answered {name : Text} {ledger after : Ledger} {listed : QueryResult}
    (h : carryOutOn (.select none) name ledger = (.ok listed, after)) :
    listed.columnTexts Catalog.tableNameColumn
      = ((LogDatabase.rows ledger.logs name).map LogEntry.table).eraseDups := by
  obtain ⟨found, hcarried⟩ := carryOut_of_answered h
  have hanswer := congrArg Prod.fst h
  unfold carryOutOn at hanswer
  rw [hcarried] at hanswer
  injection hanswer with hlisted
  rw [← hlisted]
  unfold LedgerDatabase.answer
  rw [columnTexts_listing]
  simp

/-- The database keeps its logs and has a catalog of its tables. -/
theorem catalogsLogs :
    CatalogsLogs (database d log missing) d log (rowsOf Ledger.logs) (isThere d log missing) where
  keeps := keepsLogs d log missing
  lookUp_answer h := by
    injection h with hanswer
    injection hanswer with hanswer
    exact hanswer.symm
  lookUp_there _ _ _ := rfl
  listTables_there schema ledger r := by
    have hsql : LogCommand.listTables.sql schema ≠ .create := nofun
    rw [execute_command_eq, isThere_carryOutOn d log missing hsql]
  deleteNamed_there schema name ledger r := by
    have hsql : (LogCommand.deleteNamed name).sql schema ≠ .create := nofun
    rw [execute_command_eq, isThere_carryOutOn d log missing hsql]
  listed {schema ledger listed after} h := by
    rw [execute_command_eq] at h
    have hnames := columnTexts_of_answered h
    rw [hnames]
    refine ⟨nodup_eraseDups _, fun name => ?_⟩
    rw [List.mem_eraseDups, List.mem_map]
    rfl
  noLog schema ledger h := by
    -- the log itself is there if and only if the ledger holds it
    have hnone : (ledger.logs (localName d schema log)).isSome = false := by
      unfold isThere at h
      rwa [if_pos (show (TableRef.inSchema schema log).table = log from rfl)] at h
    unfold rowsOf
    rw [Option.isNone_iff_eq_none.mp (Option.isSome_eq_false_iff.mp hnone)]
    rfl

def row (schema table : String) : LogEntry :=
  ⟨"alice".toList, schema.toList, table.toList, ⟨0, 0⟩, some ⟨7, 0⟩⟩

/-- The log names a table that is there and two that are missing, one of them twice. -/
def ledger : Ledger where
  logs := LogDatabase.noLogs.put (localName .pg "public".toList ExpiredTable.journal.logName)
    [row "public" "a", row "public" "b", row "public" "c", row "other" "b"]
  now := ⟨0, 0⟩

end MissingTables

open MissingTables ExpiredTable in
/-- The rows of the two tables that are missing are deleted, also the one that was written
    for another schema.  The row of the table that is there is left. -/
theorem Journal.reconcile_heals_two_missing :
    let db := database .pg journal.logName ["b".toList, "c".toList]
    let reconciling := (journal.reconcile "public".toList).run
    CatalogsLogs db .pg journal.logName (rowsOf Ledger.logs)
        (isThere .pg journal.logName ["b".toList, "c".toList])
      ∧ ∃ (final last : Ledger) (said more : List Exchange),
        reconciling.Ends db ledger (.ok 2) final said
          ∧ journal.logRows (rowsOf Ledger.logs) final "public".toList = [row "public" "a"]
          ∧ reconciling.Ends db final (.ok 0) last more
          ∧ ∀ s answer, .executed s answer ∈ more →
            Catalog.deleteOpening.isPrefixOf s.sql = false := by
  intro db reconciling
  have hdb := catalogsLogs .pg journal.logName ["b".toList, "c".toList]
  obtain ⟨result, final, said, hends, hheals⟩ :=
    reconcile_heals (j := journal) hdb "public".toList ledger
  have hevaluated : (reconciling.run db ledger).1.toOption.bind Except.toOption = some 2
      ∧ (reconciling.transcript db (reconciling.run db ledger).2).all (!·.isRefused) := by
    decide +kernel
  obtain ⟨hcount, hanswered⟩ := hevaluated
  rw [hends.run] at hcount hanswered
  cases result with
  | error e => injection hcount
  | ok count =>
    obtain rfl : count = 2 := by injection hcount
    obtain ⟨repeated, last, more, hrepeats, hidle⟩ := hheals.again rfl final rfl rfl
    have hserved : ∀ call ∈ more, call.isRefused = false := by
      have hmore : reconciling.transcript db final = more := hrepeats.transcript
      rw [hmore] at hanswered
      simpa using hanswered
    obtain ⟨rfl, hnone⟩ := hidle hserved
    refine ⟨hdb, final, last, said, more, hends, ?_, hrepeats, hnone⟩
    rw [(hheals.leaves rfl).1]
    decide +kernel

end TableLedger
