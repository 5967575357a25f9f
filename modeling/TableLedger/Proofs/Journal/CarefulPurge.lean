/-
  TableLedger.Proofs.Journal.CarefulPurge — what a purge says to the database.

  A purge asks the log of a schema for the tables that have expired and gives each of
  them a turn.  It drops a table only when the catalog has just said that it is there,
  and once it has dropped one it deletes the rows that name it before it does anything
  else.  A table that is not there, cannot be looked up or cannot be dropped is passed
  over; the one thing that ends a purge among the tables is a deletion that is refused.

  Main statements:
    • `exists_purgeTurn` — the four ends that the turn of a table may have,
    • `exists_purge` — a purge never breaks off, and what it says,
    • `purgeExpired_is_careful` — what stands in front of every drop and every deletion,
      what a purge can fail by, and what it counts.
-/

import TableLedger.Proofs.Journal.Housekeeping
import TableLedger.Proofs.Journal.LogSql
import TableLedger.Proofs.Journal.Rounds

namespace TableLedger

open Dialogue

/-- The table that a call looks up. -/
def Exchange.lookedUp? : Exchange → Option TableRef
  | .lookedUp r _ => some r
  | .executed _ _ | .askedSchema _ | .readClock _ => none

/-- The words that a statement opens with by which rows are deleted. -/
def Catalog.deleteOpening : Text := "DELETE FROM ".toList

namespace Journal

variable {σ : Type} {j : Journal} {schema name : Text}

/-! ## §1. The turn of a table -/

/-- What is said in the turn of a table, and what it comes to. -/
inductive PurgeTurn (j : Journal) (schema name : Text) :
    Except JournalError Bool → List Exchange → Prop where
  /-- The table is not there, or that cannot be told. -/
  | passed {answer : Except StatementError Bool} (h : answer ≠ .ok true) :
      PurgeTurn j schema name (.ok false) [.lookedUp (.inSchema schema name) answer]
  /-- The table is there, and its drop is refused. -/
  | refused (e : StatementError) :
      PurgeTurn j schema name (.ok false)
        [.lookedUp (.inSchema schema name) (.ok true),
          .executed (Catalog.dropIfExists j.dialect (.inSchema schema name)) (.error e)]
  /-- The table is dropped, and then the rows that name it are deleted. -/
  | purged (dropped deleted : QueryResult) :
      PurgeTurn j schema name (.ok true)
        [.lookedUp (.inSchema schema name) (.ok true),
          .executed (Catalog.dropIfExists j.dialect (.inSchema schema name)) (.ok dropped),
          .executed (j.sent schema (.deleteNamed name)) (.ok deleted)]
  /-- The table is dropped, and the deletion of its rows is refused. -/
  | stuck (dropped : QueryResult) (e : StatementError) :
      PurgeTurn j schema name (.error ⟨schema, .delete, e⟩)
        [.lookedUp (.inSchema schema name) (.ok true),
          .executed (Catalog.dropIfExists j.dialect (.inSchema schema name)) (.ok dropped),
          .executed (j.sent schema (.deleteNamed name)) (.error e)]

/-- Whatever the database answers, the turn of a table has one of these ends. -/
theorem exists_purgeTurn (j : Journal) (db : Database σ) (schema name : Text) (state : σ) :
    ∃ result after said, (j.purgeTable schema name).run.Ends db state result after said
      ∧ PurgeTurn j schema name result said := by
  unfold purgeTable
  cases hlook : db.lookUp (.inSchema schema name) state with
  | mk answered looked =>
    by_cases hthere : answered = .ok true
    · subst hthere
      cases hdrop : db.execute (Catalog.dropIfExists j.dialect (.inSchema schema name)) looked with
      | mk answered dropped =>
        cases answered with
        | error e =>
          exact ⟨_, _, _, ends_lift_bind (ends_lookingUp_of_eq hlook)
            (ends_lift_bind (ends_executing_of_eq hdrop) (ends_pure db _ _)), .refused e⟩
        | ok rows =>
          -- only a deletion that is refused fails the turn
          cases hdelete : db.execute (j.sent schema (.deleteNamed name)) dropped with
          | mk answered deleted =>
            cases answered with
            | error e =>
              exact ⟨_, _, _, ends_lift_bind (ends_lookingUp_of_eq hlook)
                (ends_lift_bind (ends_executing_of_eq hdrop)
                  (ends_bind_of_error (ends_discard_perform hdelete))), .stuck rows e⟩
            | ok answer =>
              exact ⟨_, _, _, ends_lift_bind (ends_lookingUp_of_eq hlook)
                (ends_lift_bind (ends_executing_of_eq hdrop)
                  (ends_bind_pure (ends_discard_perform hdelete) rfl)), .purged rows answer⟩
    · refine ⟨.ok false, looked, _, ends_lift_bind (ends_lookingUp_of_eq hlook) ?_, .passed hthere⟩
      split
      · exact absurd rfl hthere
      · exact ends_pure db _ _

/-! ## §2. The whole purge -/

/-- What is said in a purge, and what it comes to. -/
inductive Purge (j : Journal) (schema : Text) (σ : Type) :
    Except JournalError Nat → List Exchange → Prop where
  /-- It cannot be told whether there is a log. -/
  | notAnswered (e : StatementError) :
      Purge j schema σ (.error ⟨schema, .lookup, e⟩) [.lookedUp (j.log schema) (.error e)]
  | noLog : Purge j schema σ (.ok 0) [.lookedUp (j.log schema) (.ok false)]
  /-- The log cannot be read. -/
  | notListed (cutoff : Timestamp) (e : StatementError) :
      Purge j schema σ (.error ⟨schema, .select, e⟩)
        [.lookedUp (j.log schema) (.ok true), .readClock cutoff,
          .executed (j.sent schema (.listExpired cutoff)) (.error e)]
  /-- The tables that the log lists as expired have their turns. -/
  | rounds {cutoff : Timestamp} {listed : QueryResult} {found final : σ}
      {result : Except JournalError Nat} {said : List Exchange}
      (h : Rounds (fun name _ result _ said => PurgeTurn j schema name result said)
        (listed.columnTexts Catalog.tableNameColumn) found result final said) :
      Purge j schema σ result
        ([.lookedUp (j.log schema) (.ok true), .readClock cutoff,
          .executed (j.sent schema (.listExpired cutoff)) (.ok listed)] ++ said)

/-- A purge never breaks off. -/
theorem exists_purge (j : Journal) (db : Database σ) (schema : Text) (state : σ) :
    ∃ result final said, (j.purgeExpired schema).run.Ends db state result final said
      ∧ Purge j schema σ result said := by
  unfold purgeExpired
  -- each answer of the database ends the purge or leads to the next question
  cases hlook : db.lookUp (j.log schema) state with
  | mk answered looked =>
    cases answered with
    | error e =>
      exact ⟨_, _, _, ends_bind_of_error (ends_logExists hlook), .notAnswered e⟩
    | ok there =>
      cases there with
      | false => exact ⟨_, _, _, ends_bind_pure (ends_logExists hlook) rfl, .noLog⟩
      | true =>
        have hclock : readingClock.Ends db looked (db.readClock looked).1 (db.readClock looked).2
          [.readClock (db.readClock looked).1] := ⟨rfl, rfl⟩
        cases hlist : db.execute (j.sent schema (.listExpired (db.readClock looked).1))
            (db.readClock looked).2 with
        | mk answered asked =>
          cases answered with
          | error e =>
            exact ⟨_, _, _, ends_bind (ends_logExists hlook) (ends_lift_bind hclock
              (ends_bind_of_error (ends_loggedTables hlist))), .notListed _ e⟩
          | ok listed =>
            obtain ⟨result, final, said, hends, hrounds⟩ := exists_rounds
              (show j.purgeTables schema [] = pure 0 from rfl) (fun _ _ => rfl)
              (exists_purgeTurn j db schema) (listed.columnTexts Catalog.tableNameColumn) asked
            exact ⟨result, final, _, ends_bind (ends_logExists hlook) (ends_lift_bind hclock
              (ends_bind (ends_loggedTables hlist) hends)), .rounds hrounds⟩

/-! ## §3. Careful purges -/

/-- A statement that deletes the rows of a table from the log of a schema.  It is written as
    the SQL that takes from the log the rows that name the table, and the one value that it
    binds is the name. -/
structure DeletesNamed (j : Journal) (schema name : Text) (s : Statement) : Prop where
  sent : s = j.sent schema (.deleteNamed name)
  sql : s = (LogSql.delete [⟨.table, name⟩]).statement j.dialect
    (Catalog.localName j.dialect schema j.logName)
  written : s.sql = Catalog.deleteOpening ++ Catalog.localName j.dialect schema j.logName
    ++ " WHERE table_name = ".toList ++ j.dialect.placeholder 1
  bound : s.params = [.text name]

/-- What a purge sends is such a statement. -/
theorem deletesNamed_sent (j : Journal) (schema name : Text) :
    j.DeletesNamed schema name (j.sent schema (.deleteNamed name)) where
  sent := rfl
  sql := LogCommand.statement_eq j.dialect schema j.logName (.deleteNamed name)
  written := by
    -- nothing is written behind the placeholder
    show Catalog.deleteOpening ++ Catalog.localName j.dialect schema j.logName
      ++ " WHERE table_name = ".toList ++ (j.dialect.placeholder 1 ++ []) = _
    rw [List.append_nil]
  bound := rfl

/-- What makes a purge careful, whatever it was answered. -/
structure IsCarefulPurge (j : Journal) (schema : Text) (result : Except JournalError Nat)
    (said : List Exchange) : Prop where
  /-- A drop is of a table that the log has listed as expired, and follows right upon the
      answer that the table is there.  If it succeeds, the rows that name the table are to
      be deleted right after it. -/
  drops : ∀ {front back s answer}, said = front ++ .executed s answer :: back →
    (Catalog.dropOpening j.dialect).isPrefixOf s.sql = true →
      ∃ (cutoff : Timestamp) (listed : QueryResult) (name : Text) (before : List Exchange),
        .executed (j.sent schema (.listExpired cutoff)) (.ok listed) ∈ before
          ∧ name ∈ listed.columnTexts Catalog.tableNameColumn
          ∧ s = Catalog.dropIfExists j.dialect (.inSchema schema name)
          ∧ front = before ++ [.lookedUp (.inSchema schema name) (.ok true)]
          ∧ ∀ dropped, answer = .ok dropped → ∃ deletion deleted behind,
              j.DeletesNamed schema name deletion
                ∧ back = .executed deletion deleted :: behind
  /-- Rows are deleted right after the drop of the table that they name. -/
  deletions : ∀ {front back s answer}, said = front ++ .executed s answer :: back →
    Catalog.deleteOpening.isPrefixOf s.sql = true →
      ∃ (name : Text) (dropped : QueryResult) (before : List Exchange),
        j.DeletesNamed schema name s
          ∧ front = before
            ++ [.executed (Catalog.dropIfExists j.dialect (.inSchema schema name)) (.ok dropped)]
  /-- The purge fails if it cannot be told whether there is a log, if the log cannot be
      read, and if rows cannot be deleted. -/
  fails : ∀ {e}, result = .error e →
    (∃ cause, said = [.lookedUp (j.log schema) (.error cause)])
      ∨ (∃ cutoff cause, said = [.lookedUp (j.log schema) (.ok true), .readClock cutoff,
          .executed (j.sent schema (.listExpired cutoff)) (.error cause)])
      ∨ ∃ earlier name dropped deletion cause, j.DeletesNamed schema name deletion
          ∧ said = earlier
            ++ [.executed (Catalog.dropIfExists j.dialect (.inSchema schema name)) (.ok dropped),
              .executed deletion (.error cause)]
  /-- Otherwise, if there is a log, every table that it lists as expired was looked up, in
      order. -/
  looksUp : ∀ {count}, result = .ok count →
    said = [.lookedUp (j.log schema) (.ok false)]
      ∨ ∃ cutoff listed, .executed (j.sent schema (.listExpired cutoff)) (.ok listed) ∈ said
          ∧ said.filterMap Exchange.lookedUp?
            = j.log schema :: (listed.columnTexts Catalog.tableNameColumn).map (.inSchema schema)
  /-- What is counted are the drops that succeeded. -/
  counts : ∀ {count}, result = .ok count → count = dropsIn j.dialect said

/-- No query for what has expired drops a table or deletes a row. -/
theorem opening_listExpired (d : Dialect) (schema log : Text) (cutoff : Timestamp) :
    (Catalog.dropOpening d).isPrefixOf ((LogCommand.listExpired cutoff).statement d schema log).sql
        = false
      ∧ Catalog.deleteOpening.isPrefixOf
        ((LogCommand.listExpired cutoff).statement d schema log).sql = false := by
  cases d <;> exact ⟨rfl, rfl⟩

/-- No deletion drops a table. -/
theorem dropOpening_deleteNamed (d : Dialect) (schema log name : Text) :
    (Catalog.dropOpening d).isPrefixOf ((LogCommand.deleteNamed name).statement d schema log).sql
      = false := by
  cases d <;> rfl

/-- No drop deletes rows. -/
theorem deleteOpening_dropIfExists (d : Dialect) (r : TableRef) :
    Catalog.deleteOpening.isPrefixOf (Catalog.dropIfExists d r).sql = false := by
  cases d <;> rfl

namespace PurgeTurn

variable {result : Except JournalError Bool} {before behind : List Exchange} {s : Statement}
  {answer : Except StatementError QueryResult}

/-- The statements of a turn: a drop, and a deletion behind one that succeeded. -/
theorem of_executed (h : PurgeTurn j schema name result (before ++ .executed s answer :: behind)) :
    (s = Catalog.dropIfExists j.dialect (.inSchema schema name)
        ∧ before = [.lookedUp (.inSchema schema name) (.ok true)]
        ∧ ∀ dropped, answer = .ok dropped → ∃ deleted,
            behind = [.executed (j.sent schema (.deleteNamed name)) deleted])
      ∨ s = j.sent schema (.deleteNamed name)
        ∧ ∃ dropped, before = [.lookedUp (.inSchema schema name) (.ok true),
            .executed (Catalog.dropIfExists j.dialect (.inSchema schema name)) (.ok dropped)] := by
  generalize hsaid : before ++ .executed s answer :: behind = said at h
  cases h with
  | passed hnot => simp [List.append_eq_cons_iff] at hsaid
  | refused e =>
    obtain ⟨rfl, rfl, rfl, rfl⟩ := cut_at_executed_iff.mp hsaid
    exact .inl ⟨rfl, rfl, nofun⟩
  | purged dropped deleted =>
    obtain ⟨rfl, rfl, rfl, rfl⟩ | ⟨rfl, rfl, -, -⟩ := cut_at_executed_twice_iff.mp hsaid
    · exact .inl ⟨rfl, rfl, fun _ _ => ⟨_, rfl⟩⟩
    · exact .inr ⟨rfl, dropped, rfl⟩
  | stuck dropped e =>
    obtain ⟨rfl, rfl, rfl, rfl⟩ | ⟨rfl, rfl, -, -⟩ := cut_at_executed_twice_iff.mp hsaid
    · exact .inl ⟨rfl, rfl, fun _ _ => ⟨_, rfl⟩⟩
    · exact .inr ⟨rfl, dropped, rfl⟩

/-- A turn that fails ends with a deletion that is refused. -/
theorem of_error {e : JournalError} {said : List Exchange}
    (h : PurgeTurn j schema name (.error e) said) :
    ∃ dropped cause, said = [.lookedUp (.inSchema schema name) (.ok true)]
      ++ [.executed (Catalog.dropIfExists j.dialect (.inSchema schema name)) (.ok dropped),
        .executed (j.sent schema (.deleteNamed name)) (.error cause)] := by
  cases h with
  | stuck dropped cause => exact ⟨dropped, cause, rfl⟩

/-- The one table that is looked up in a turn is the one whose turn it is. -/
theorem filterMap_lookedUp? {said : List Exchange} (h : PurgeTurn j schema name result said) :
    said.filterMap Exchange.lookedUp? = [.inSchema schema name] := by
  cases h with
  | passed | refused | purged | stuck => rfl

end PurgeTurn

namespace Purge

/-- The one statement that is executed before the tables have their turns. -/
theorem eq_of_cut {r : TableRef} {found : Except StatementError Bool} {time : Timestamp}
    {s sent : Statement} {answer came : Except StatementError QueryResult}
    {front back : List Exchange}
    (h : [.lookedUp r found, .readClock time, .executed sent came]
      = front ++ .executed s answer :: back) : s = sent := by
  have hmem : Exchange.executed s answer
      ∈ [.lookedUp r found, .readClock time, .executed sent came] := by
    rw [h]
    exact List.mem_append_right front List.mem_cons_self
  simp only [List.mem_cons, reduceCtorEq, Exchange.executed.injEq, List.not_mem_nil, or_false,
    false_or] at hmem
  exact hmem.1

variable {result : Except JournalError Nat} {said front back : List Exchange} {s : Statement}
  {answer : Except StatementError QueryResult}

/-- The statements of a purge: the query for what has expired, and those of the turns of
    the tables that it lists. -/
theorem of_executed (h : Purge j schema σ result said)
    (hcut : said = front ++ .executed s answer :: back) :
    (∃ cutoff, s = j.sent schema (.listExpired cutoff))
      ∨ ∃ (cutoff : Timestamp) (listed : QueryResult) (name : Text)
          (came : Except JournalError Bool) (earlier later before behind : List Exchange),
        .executed (j.sent schema (.listExpired cutoff)) (.ok listed) ∈ earlier
          ∧ name ∈ listed.columnTexts Catalog.tableNameColumn
          ∧ PurgeTurn j schema name came (before ++ .executed s answer :: behind)
          ∧ front = earlier ++ before ∧ back = behind ++ later := by
  cases h with
  | notAnswered | noLog => simp [List.cons_eq_append_iff] at hcut
  | notListed cutoff e => exact .inl ⟨cutoff, eq_of_cut hcut⟩
  | @rounds cutoff listed _ _ _ said hrounds =>
    obtain ⟨rest, hopening, -⟩ | ⟨skipped, rfl, hsaid⟩ := cut_of_append_eq hcut
    · exact .inl ⟨cutoff, eq_of_cut hopening⟩
    · -- behind the query every statement is one of a turn
      obtain ⟨name, hname, _, _, came, earlier, later, before, behind, hturn, rfl, rfl⟩ :=
        hrounds.exists_turn_of_cut hsaid
      exact .inr ⟨cutoff, listed, name, came, _, later, before, behind,
        by simp, hname, hturn, (List.append_assoc _ _ _).symm, rfl⟩

/-- What stands around a drop. -/
theorem drops (h : Purge j schema σ result said)
    (hcut : said = front ++ .executed s answer :: back)
    (hs : (Catalog.dropOpening j.dialect).isPrefixOf s.sql = true) :
    ∃ (cutoff : Timestamp) (listed : QueryResult) (name : Text) (before : List Exchange),
      .executed (j.sent schema (.listExpired cutoff)) (.ok listed) ∈ before
        ∧ name ∈ listed.columnTexts Catalog.tableNameColumn
        ∧ s = Catalog.dropIfExists j.dialect (.inSchema schema name)
        ∧ front = before ++ [.lookedUp (.inSchema schema name) (.ok true)]
        ∧ ∀ dropped, answer = .ok dropped → ∃ deletion deleted behind,
            j.DeletesNamed schema name deletion
              ∧ back = .executed deletion deleted :: behind := by
  obtain ⟨cutoff, rfl⟩ | ⟨cutoff, listed, name, came, earlier, later, before, behind, hasked,
    hname, hturn, rfl, rfl⟩ := h.of_executed hcut
  · exact absurd hs (by rw [sent, (opening_listExpired _ _ _ _).1]; decide)
  · obtain ⟨rfl, rfl, hdeleted⟩ | ⟨rfl, -⟩ := hturn.of_executed
    · refine ⟨cutoff, listed, name, earlier, hasked, hname, rfl, rfl, fun dropped hdropped => ?_⟩
      obtain ⟨deleted, rfl⟩ := hdeleted dropped hdropped
      exact ⟨_, deleted, later, j.deletesNamed_sent schema name, rfl⟩
    · exact absurd hs (by rw [sent, dropOpening_deleteNamed]; decide)

/-- What stands in front of a deletion. -/
theorem deletions (h : Purge j schema σ result said)
    (hcut : said = front ++ .executed s answer :: back)
    (hs : Catalog.deleteOpening.isPrefixOf s.sql = true) :
    ∃ (name : Text) (dropped : QueryResult) (before : List Exchange),
      j.DeletesNamed schema name s
        ∧ front = before ++ [.executed
          (Catalog.dropIfExists j.dialect (.inSchema schema name)) (.ok dropped)] := by
  obtain ⟨cutoff, rfl⟩ | ⟨cutoff, listed, name, came, earlier, later, before, behind, -,
    -, hturn, rfl, rfl⟩ := h.of_executed hcut
  · exact absurd hs (by rw [sent, (opening_listExpired _ _ _ _).2]; decide)
  · obtain ⟨rfl, -⟩ | ⟨rfl, dropped, rfl⟩ := hturn.of_executed
    · exact absurd hs (by rw [deleteOpening_dropIfExists]; decide)
    · exact ⟨name, dropped, _, j.deletesNamed_sent schema name, List.append_cons earlier _ _⟩

/-- The three ways to fail. -/
theorem fails {e : JournalError} (h : Purge j schema σ (.error e) said) :
    (∃ cause, said = [.lookedUp (j.log schema) (.error cause)])
      ∨ (∃ cutoff cause, said = [.lookedUp (j.log schema) (.ok true), .readClock cutoff,
          .executed (j.sent schema (.listExpired cutoff)) (.error cause)])
      ∨ ∃ earlier name dropped deletion cause, j.DeletesNamed schema name deletion
          ∧ said = earlier
            ++ [.executed (Catalog.dropIfExists j.dialect (.inSchema schema name)) (.ok dropped),
              .executed deletion (.error cause)] := by
  cases h with
  | notAnswered cause => exact .inl ⟨cause, rfl⟩
  | notListed cutoff cause => exact .inr (.inl ⟨cutoff, cause, rfl⟩)
  | rounds hrounds =>
    obtain ⟨name, -, _, earlier, last, hturn, rfl⟩ := hrounds.exists_turn_of_error
    obtain ⟨dropped, cause, rfl⟩ := hturn.of_error
    exact .inr (.inr ⟨_, name, dropped, _, cause, j.deletesNamed_sent schema name,
      by rw [← List.append_assoc, ← List.append_assoc]⟩)

/-- What is looked up in a purge that ends in a count. -/
theorem looksUp {count : Nat} (h : Purge j schema σ (.ok count) said) :
    said = [.lookedUp (j.log schema) (.ok false)]
      ∨ ∃ cutoff listed, .executed (j.sent schema (.listExpired cutoff)) (.ok listed) ∈ said
          ∧ said.filterMap Exchange.lookedUp?
            = j.log schema
              :: (listed.columnTexts Catalog.tableNameColumn).map (.inSchema schema) := by
  cases h with
  | noLog => exact .inl rfl
  | @rounds cutoff listed _ _ _ said hrounds =>
    refine .inr ⟨cutoff, listed, by simp, ?_⟩
    rw [List.filterMap_append, hrounds.filterMap_eq_map PurgeTurn.filterMap_lookedUp?]
    rfl

end Purge

/-- **A purge is careful.**  Whatever the database answers and refuses, a purge ends in a
    count or in a failure.  It drops a table only if the log of the schema listed it as
    expired and only right after the catalog said that it is there; what it does right
    after a drop that succeeded is to delete the rows that name the table, and it deletes
    no rows otherwise.  It fails only if the log cannot be looked up, read or changed; a
    table that cannot be looked up or dropped does not keep the others from their turns.
    What it counts are the drops that succeeded. -/
theorem purgeExpired_is_careful (j : Journal) (db : Database σ) (schema : Text) (state : σ) :
    ∃ result final said, (j.purgeExpired schema).run.Ends db state result final said
      ∧ j.IsCarefulPurge schema result said := by
  obtain ⟨result, final, said, hends, hpurge⟩ := exists_purge j db schema state
  refine ⟨result, final, said, hends, ?_⟩
  exact {
    drops := hpurge.drops
    deletions := hpurge.deletions
    fails := fun hfailed => (hfailed ▸ hpurge).fails
    looksUp := fun hcounted => (hcounted ▸ hpurge).looksUp
    counts := fun {count} hcounted => by
      -- that a purge counts its drops is known of every purge that ends in a count
      subst hcounted
      have hdrops := j.purgeExpired_dropsAs schema db state final count hends.run
      rw [hends.transcript] at hdrops
      exact hdrops.symm }

end Journal

/-! ## §4. A table in use, one that is gone, and one that can be dropped -/

namespace ExpiredTable

open Rehearsal

/-- A schema whose log lists three tables as expired.  The first one cannot be dropped, and
    the second one is not there. -/
def threeExpired : Rehearsal :=
  { Rehearsal.empty .pg (.ok "public".toList) ⟨0, 0⟩ with
    catalog := [⟨"public".toList, journal.logName⟩, ⟨"public".toList, "busy".toList⟩, expired]
    failures := [⟨"DROP TABLE IF EXISTS public.busy".toList, refusal⟩]
    responses := [⟨"WHERE expires <".toList,
      column Catalog.tableNameColumn ["busy".toList, "gone".toList, expired.table]⟩] }

end ExpiredTable

open ExpiredTable Rehearsal in
/-- All three tables have their turns, and the last one is dropped. -/
theorem Journal.purgeExpired_is_careful_of_three :
    ∃ (final : Rehearsal) (said : List Exchange),
      (journal.purgeExpired "public".toList).run.Ends database threeExpired (.ok 1) final said
        ∧ journal.IsCarefulPurge "public".toList (.ok 1) said
        ∧ dropsIn .pg said = 1
        ∧ said.filterMap Exchange.lookedUp? = ["__temp_log_table_alice__".toList, "busy".toList,
          "gone".toList, "old".toList].map (.inSchema "public".toList) := by
  obtain ⟨result, final, said, hends, hcareful⟩ :=
    journal.purgeExpired_is_careful database "public".toList threeExpired
  have hcount : ((journal.purgeExpired "public".toList).run.run database
      threeExpired).1.toOption.bind Except.toOption = some 1 := by decide +kernel
  have hlookups : ((journal.purgeExpired "public".toList).run.transcript database
      threeExpired).filterMap Exchange.lookedUp? = ["__temp_log_table_alice__".toList,
        "busy".toList, "gone".toList, "old".toList].map (.inSchema "public".toList) := by
    decide +kernel
  rw [hends.run] at hcount
  rw [hends.transcript] at hlookups
  cases result with
  | error e => injection hcount
  | ok count =>
    obtain rfl : count = 1 := by injection hcount
    exact ⟨final, said, hends, hcareful, (hcareful.counts rfl).symm, hlookups⟩

end TableLedger
