/-
  TableLedger.Proofs.Journal.Housekeeping — what housekeeping reports.

  Housekeeping goes through the schemas that hold a log, in the order in which
  the database lists them, and passes over each of them once: it drops what has
  expired there, then deletes the rows of what is gone.  A pass that fails ends
  where it fails, and the next schema has its turn.  The report adds up what the
  passes report that were seen through; a table that was dropped in a pass that
  failed afterwards is left out of it.

  Main statements:
    • `housekeepSchema_dropsAs` — a pass that is seen through reports the tables
      that it dropped,
    • `housekeepSchemas_run` — housekeeping never breaks off, and what it reports
      and says to the database is put together from its passes,
    • `purged_housekeeping_iff` — the report counts all tables that were dropped if
      and only if no pass failed after it had dropped one.
-/

import Mathlib.Algebra.GroupWithZero.Nat
import TableLedger.Proofs.Session.Pruning
import TableLedger.Proofs.Transcript
import TableLedger.Rehearsal

namespace TableLedger

open Dialogue

/-! ## §1. Drops in a transcript -/

/-- The words that a statement opens with by which a table is dropped. -/
def Catalog.dropOpening : Dialect → Text
  | .pg => "DROP TABLE IF EXISTS ".toList
  | .ms | .azure => "IF OBJECT_ID(".toList

/-- Whether a table was dropped: the statement was sent, and the database did not
    refuse it. -/
def Exchange.isDrop (d : Dialect) : Exchange → Bool
  | .executed s (.ok _) => (Catalog.dropOpening d).isPrefixOf s.sql
  | _ => false

/-- The number of tables that were dropped. -/
def dropsIn (d : Dialect) (exchanges : List Exchange) : Nat :=
  exchanges.countP (Exchange.isDrop d)

@[simp] theorem dropsIn_append (d : Dialect) (xs ys : List Exchange) :
    dropsIn d (xs ++ ys) = dropsIn d xs + dropsIn d ys :=
  List.countP_append

/-- A drop counts if it is answered well. -/
theorem dropsIn_executed_dropIfExists (d : Dialect) (r : TableRef)
    (answer : Except StatementError QueryResult) :
    dropsIn d [.executed (Catalog.dropIfExists d r) answer]
      = if answer.toBool then 1 else 0 := by
  cases answer with
  | error e => rfl
  | ok result => cases d <;> rfl

/-- No command on a log drops a table. -/
theorem dropsIn_executed_command (d : Dialect) (schema log : Text) (command : LogCommand)
    (answer : Except StatementError QueryResult) :
    dropsIn d [.executed (command.statement d schema log) answer] = 0 := by
  cases answer with
  | error e => rfl
  | ok result => cases d <;> cases command <;> rfl

/-- The query for the schemas with a log is no drop. -/
theorem dropsIn_executed_schemasWithLog (d : Dialect) (log : Text)
    (answer : Except StatementError QueryResult) :
    dropsIn d [.executed (Catalog.schemasWithLog d log) answer] = 0 := by
  cases answer with
  | error e => rfl
  | ok result => cases d <;> rfl

/-- Of all that housekeeping says, what is taken for a drop is one. -/
theorem isDrop_iff_of_isPruning {d : Dialect} {log : Text} {s : Statement}
    {answer : Except StatementError QueryResult} (hs : IsPruning d log s) :
    (Exchange.executed s answer).isDrop d = true
      ↔ ∃ r result, s = Catalog.dropIfExists d r ∧ answer = .ok result := by
  constructor
  · intro hdrop
    cases answer with
    | error e => exact absurd hdrop Bool.false_ne_true
    | ok result =>
      cases hs with
      | drop r => exact ⟨r, result, rfl, rfl⟩
      | command schema command =>
        cases d <;> cases command <;> exact absurd hdrop Bool.false_ne_true
      | schemasWithLog | listIndexes r | renameIndex r index newIndex =>
        cases d <;> exact absurd hdrop Bool.false_ne_true
  · rintro ⟨r, result, rfl, rfl⟩
    cases d <;> rfl

/-! ## §2. Tables dropped by a part of the journal -/

namespace Journal

variable {α β σ : Type} {d : Dialect}

/-- If the dialogue ends in a value and no failure, that value and the number of
    tables that it dropped are as `post` says, whatever it was answered. -/
def DropsAs (d : Dialect) (post : α → Nat → Prop) (x : JournalDialogue α) : Prop :=
  ∀ ⦃σ : Type⦄ (db : Database σ) (state final : σ) (a : α),
    x.run.run db state = (.ok (.ok a), final) → post a (dropsIn d (x.run.transcript db state))

theorem dropsAs_pure {post : α → Nat → Prop} {a : α} (h : post a 0) :
    DropsAs d post (pure a : JournalDialogue α) := by
  intro σ db state final b hrun
  obtain ⟨hvalue, -⟩ := Prod.mk.inj hrun
  injection hvalue with hvalue
  injection hvalue with hvalue
  exact hvalue ▸ h

/-- What a part is known to drop may be said less exactly. -/
theorem DropsAs.mono {post weaker : α → Nat → Prop} {x : JournalDialogue α}
    (hx : DropsAs d post x) (h : ∀ a n, post a n → weaker a n) : DropsAs d weaker x :=
  fun _ db state final a hrun => h a _ (hx db state final a hrun)

/-- The drops of two dialogues in sequence add up. -/
theorem dropsAs_bind {post : α → Nat → Prop} {last : β → Nat → Prop} {x : JournalDialogue α}
    {f : α → JournalDialogue β} (hx : DropsAs d post x)
    (hf : ∀ a n, post a n → DropsAs d (fun b m => last b (n + m)) (f a)) :
    DropsAs d last (x >>= f) := by
  intro σ db state final b hrun
  obtain ⟨result, after, hfirst, hrest⟩ := Dialogue.run_bind_eq_ok hrun
  have htranscript : (x >>= f).run.transcript db state = x.run.transcript db state ++ _ :=
    transcript_bind_of_ok hfirst
  rw [htranscript, dropsIn_append]
  cases result with
  | ok a => exact hf a _ (hx db state after a hfirst) db after final b hrest
  | error e =>
    -- a failure is not followed by a value
    obtain ⟨hfailed, -⟩ := Prod.mk.inj hrest
    injection hfailed with hfailed
    injection hfailed

theorem dropsAs_answer (schema : Text) (operation : JournalOperation)
    (answered : Except StatementError α) :
    DropsAs d (fun a n => answered = .ok a ∧ n = 0) (answer schema operation answered) := by
  cases answered with
  | ok a => exact dropsAs_pure ⟨rfl, rfl⟩
  | error e =>
    intro σ db state final a hrun
    obtain ⟨hfailed, -⟩ := Prod.mk.inj hrun
    injection hfailed with hfailed
    injection hfailed

/-- A dialogue says the same when it is made part of the journal. -/
theorem transcript_lift (db : Database σ) (x : Dialogue α) (state : σ) :
    (liftM x : JournalDialogue α).run.transcript db state = x.transcript db state := by
  show (x >>= fun a => pure (Except.ok a)).transcript db state = _
  rw [transcript_bind]
  split
  · rw [transcript_pure, List.append_nil]
  · rw [List.append_nil]

/-- What is true of every answer is true of a single call. -/
theorem dropsAs_lift {x : Dialogue α} {post : α → Nat → Prop}
    (h : ∀ ⦃σ : Type⦄ (db : Database σ) (state final : σ) (a : α),
      x.run db state = (.ok a, final) → post a (dropsIn d (x.transcript db state))) :
    DropsAs d post (liftM x : JournalDialogue α) := by
  intro σ db state final a hrun
  obtain ⟨b, after, hx, hlast⟩ := Dialogue.run_bind_eq_ok hrun
  obtain ⟨hvalue, -⟩ := Prod.mk.inj hlast
  injection hvalue with hvalue
  injection hvalue with hvalue
  have hpost := h db state after b hx
  rw [transcript_lift]
  exact hvalue ▸ hpost

/-- Looking a table up drops nothing. -/
theorem dropsAs_lookingUp (r : TableRef) :
    DropsAs d (fun _ n => n = 0)
      (liftM (lookingUp r) : JournalDialogue (Except StatementError Bool)) :=
  dropsAs_lift fun _ _ _ _ _ _ => rfl

theorem dropsAs_readingClock :
    DropsAs d (fun _ n => n = 0) (liftM readingClock : JournalDialogue Timestamp) :=
  dropsAs_lift fun _ _ _ _ _ _ => rfl

/-- A single statement drops what it says. -/
theorem dropsAs_executing (s : Statement) :
    DropsAs d (fun answered n => n = dropsIn d [.executed s answered])
      (liftM (executing s) : JournalDialogue (Except StatementError QueryResult)) := by
  refine dropsAs_lift fun σ db state final answered hrun => ?_
  obtain ⟨hanswer, -⟩ := Prod.mk.inj hrun
  injection hanswer with hanswer
  rw [← hanswer]
  rfl

variable (j : Journal)

/-- Performing a command drops nothing. -/
theorem perform_dropsAs (schema : Text) (command : LogCommand) :
    DropsAs j.dialect (fun _ n => n = 0) (j.perform schema command) := by
  refine dropsAs_bind (dropsAs_executing _) fun answered n hn => ?_
  rw [dropsIn_executed_command] at hn
  subst hn
  refine (dropsAs_answer _ _ answered).mono fun result m hm => ?_
  rw [hm.2]

/-- To ask for the log drops nothing. -/
theorem logExists_dropsAs (schema : Text) :
    DropsAs j.dialect (fun _ n => n = 0) (j.logExists schema) := by
  refine dropsAs_bind (dropsAs_lookingUp _) fun answered n hn => ?_
  subst hn
  refine (dropsAs_answer _ _ answered).mono fun found m hm => ?_
  rw [hm.2]

theorem loggedTables_dropsAs (schema : Text) (command : LogCommand) :
    DropsAs j.dialect (fun _ n => n = 0) (j.loggedTables schema command) := by
  refine dropsAs_bind (j.perform_dropsAs schema command) fun result n hn => ?_
  subst hn
  exact dropsAs_pure rfl

theorem discard_perform_dropsAs (schema : Text) (command : LogCommand) :
    DropsAs j.dialect (fun _ n => n = 0) (discard (j.perform schema command)) := by
  refine dropsAs_bind (j.perform_dropsAs schema command) fun result n hn => ?_
  subst hn
  exact dropsAs_pure rfl

/-! ## §3. One pass -/

/-- Purging a table says whether it dropped it. -/
theorem purgeTable_dropsAs (schema name : Text) :
    DropsAs j.dialect (fun dropped n => n = if dropped then 1 else 0)
      (j.purgeTable schema name) := by
  refine dropsAs_bind (dropsAs_lookingUp _) fun found n hn => ?_
  subst hn
  split
  · refine dropsAs_bind (dropsAs_executing _) fun answered n hn => ?_
    rw [dropsIn_executed_dropIfExists] at hn
    subst hn
    cases answered with
    | error e => exact dropsAs_pure rfl
    | ok result =>
      -- the rows of the table are deleted, or the whole purge fails
      refine dropsAs_bind (j.discard_perform_dropsAs schema _) fun _ n hn => ?_
      subst hn
      exact dropsAs_pure rfl
  · exact dropsAs_pure rfl

/-- Purging counts its drops. -/
theorem purgeTables_dropsAs (schema : Text) (names : List Text) :
    DropsAs j.dialect (fun count n => n = count) (j.purgeTables schema names) := by
  induction names with
  | nil => exact dropsAs_pure rfl
  | cons name rest ih =>
    refine dropsAs_bind (j.purgeTable_dropsAs schema name) fun dropped n hn => ?_
    refine dropsAs_bind ih fun others m hm => ?_
    exact dropsAs_pure (by rw [hn, hm, Nat.add_zero])

theorem purgeExpired_dropsAs (schema : Text) :
    DropsAs j.dialect (fun count n => n = count) (j.purgeExpired schema) := by
  refine dropsAs_bind (j.logExists_dropsAs schema) fun found n hn => ?_
  subst hn
  cases found with
  | false => exact dropsAs_pure rfl
  | true =>
    refine dropsAs_bind dropsAs_readingClock fun now n hn => ?_
    subst hn
    refine dropsAs_bind (j.loggedTables_dropsAs schema _) fun names n hn => ?_
    subst hn
    refine (j.purgeTables_dropsAs schema names).mono fun count n hn => ?_
    rw [hn]
    omega

/-- Reconciling drops no tables. -/
theorem reconcileTable_dropsAs (schema name : Text) :
    DropsAs j.dialect (fun _ n => n = 0) (j.reconcileTable schema name) := by
  refine dropsAs_bind (dropsAs_lookingUp _) fun answered n hn => ?_
  subst hn
  refine dropsAs_bind (dropsAs_answer _ _ answered) fun found n hn => ?_
  obtain ⟨-, rfl⟩ := hn
  cases found with
  | true => exact dropsAs_pure rfl
  | false =>
    refine dropsAs_bind (j.discard_perform_dropsAs schema _) fun _ n hn => ?_
    subst hn
    exact dropsAs_pure rfl

theorem reconcileTables_dropsAs (schema : Text) (names : List Text) :
    DropsAs j.dialect (fun _ n => n = 0) (j.reconcileTables schema names) := by
  induction names with
  | nil => exact dropsAs_pure rfl
  | cons name rest ih =>
    refine dropsAs_bind (j.reconcileTable_dropsAs schema name) fun gone n hn => ?_
    subst hn
    refine dropsAs_bind ih fun others n hn => ?_
    subst hn
    exact dropsAs_pure rfl

/-- Reconciling drops nothing. -/
theorem reconcile_dropsAs (schema : Text) :
    DropsAs j.dialect (fun _ n => n = 0) (j.reconcile schema) := by
  refine dropsAs_bind (j.logExists_dropsAs schema) fun found n hn => ?_
  subst hn
  cases found with
  | false => exact dropsAs_pure rfl
  | true =>
    refine dropsAs_bind (j.loggedTables_dropsAs schema _) fun names n hn => ?_
    subst hn
    refine (j.reconcileTables_dropsAs schema names).mono fun count n hn => ?_
    rw [hn]

/-- A pass that is seen through reports the tables that it dropped. -/
theorem housekeepSchema_dropsAs (schema : Text) :
    DropsAs j.dialect (fun done n => n = done.purged) (j.housekeepSchema schema) := by
  refine dropsAs_bind (j.purgeExpired_dropsAs schema) fun purged n hn => ?_
  refine dropsAs_bind (j.reconcile_dropsAs schema) fun reconciled m hm => ?_
  subst hm
  exact dropsAs_pure hn

/-! ## §4. All passes -/

/-- The passes of housekeeping over the given schemas. -/
def passes (db : Database σ) (schemas : List Text) (state : σ) : List (Stage Text σ) :=
  stages db (fun schema => (j.housekeepSchema schema).run) schemas state

/-- How a pass ends. -/
def endOf (db : Database σ) (pass : Stage Text σ) :
    Except Fault (Except JournalError Housekeeping) :=
  ((j.housekeepSchema pass.item).run.run db pass.found).1

/-- What is said in a pass. -/
def saidIn (db : Database σ) (pass : Stage Text σ) : List Exchange :=
  (j.housekeepSchema pass.item).run.transcript db pass.found

/-- Whether a pass fails. -/
def Fails (db : Database σ) (pass : Stage Text σ) : Prop := ∃ e, j.endOf db pass = .ok (.error e)

/-- The tables that a pass reports as dropped; one that fails reports nothing. -/
def purgedIn (db : Database σ) (pass : Stage Text σ) : Nat :=
  match j.endOf db pass with
  | .ok (.ok report) => report.purged
  | _ => 0

/-- The tables that were dropped in a pass that failed. -/
def lostIn (db : Database σ) (pass : Stage Text σ) : Nat :=
  match j.endOf db pass with
  | .ok (.ok _) => 0
  | _ => dropsIn j.dialect (j.saidIn db pass)

/-- A pass may fail, but it never breaks off. -/
theorem exists_endOf (db : Database σ) (pass : Stage Text σ) :
    ∃ result, j.endOf db pass = .ok result := by
  have hprunes : (⟨IsPruning j.dialect j.logName, False⟩ : Conduct).AllowsPruning j.dialect
      j.logName := fun _ hs => hs
  exact (j.housekeepSchema_keepsTo hprunes pass.item).run_ok not_false pass.found

/-- Every pass begins with a look for the log of its schema. -/
theorem saidIn_eq_cons (db : Database σ) (pass : Stage Text σ) :
    ∃ found rest, j.saidIn db pass = .lookedUp (j.log pass.item) found :: rest :=
  ⟨_, _, rfl⟩

/-- The drops of a pass are counted by the report, or they are lost. -/
theorem purgedIn_add_lostIn (db : Database σ) (pass : Stage Text σ) :
    j.purgedIn db pass + j.lostIn db pass = dropsIn j.dialect (j.saidIn db pass) := by
  unfold purgedIn lostIn
  obtain ⟨result, hend⟩ := j.exists_endOf db pass
  cases result with
  | error e => simp only [hend, Nat.zero_add]
  | ok report =>
    have hrun := j.housekeepSchema_dropsAs pass.item db pass.found _ report (Prod.ext hend rfl)
    simp only [hend, Nat.add_zero]
    exact hrun.symm

/-- Nothing is lost in a pass unless it fails after it has dropped a table. -/
theorem lostIn_eq_zero_iff (db : Database σ) (pass : Stage Text σ) :
    j.lostIn db pass = 0
      ↔ (j.Fails db pass → dropsIn j.dialect (j.saidIn db pass) = 0) := by
  unfold lostIn Fails
  obtain ⟨result, hend⟩ := j.exists_endOf db pass
  cases result with
  | error e => simp [hend]
  | ok report => simp [hend]

/-- Nothing is lost if and only if no purge fails once it has dropped a table. -/
theorem sum_lostIn_eq_zero_iff (db : Database σ) (passes : List (Stage Text σ)) :
    (passes.map (j.lostIn db)).sum = 0
      ↔ ∀ pass ∈ passes, j.Fails db pass → dropsIn j.dialect (j.saidIn db pass) = 0 := by
  induction passes with
  | nil => simp
  | cons pass rest ih =>
    rw [List.map_cons, List.sum_cons, Nat.add_eq_zero_iff, ih, lostIn_eq_zero_iff,
      List.forall_mem_cons]

/-- What is dropped in passes is what they report and what is lost in them. -/
theorem sum_purgedIn_add_sum_lostIn (db : Database σ) (passes : List (Stage Text σ)) :
    (passes.map (j.purgedIn db)).sum + (passes.map (j.lostIn db)).sum
      = dropsIn j.dialect (passes.flatMap (j.saidIn db)) := by
  induction passes with
  | nil => rfl
  | cons pass rest ih =>
    have hpass := j.purgedIn_add_lostIn db pass
    simp only [List.map_cons, List.sum_cons, List.flatMap_cons, dropsIn_append]
    omega

/-- Housekeeping passes over the schemas in turn, and adds their reports up. -/
theorem housekeepSchemas_run (db : Database σ) (schemas : List Text) (state : σ) :
    ∃ (report : Housekeeping) (final : σ),
      (j.housekeepSchemas schemas).run db state = (.ok report, final)
        ∧ report.purged = ((j.passes db schemas state).map (j.purgedIn db)).sum := by
  induction schemas generalizing state with
  | nil => exact ⟨⟨0, 0⟩, state, rfl, rfl⟩
  | cons schema rest ih =>
    -- a pass ends in a value, its failure being one of them, and the next schema has its turn
    obtain ⟨result, hend⟩ := j.exists_endOf db ⟨schema, state⟩
    have hhere : (j.housekeepSchema schema).run.run db state = (.ok result, _) :=
      Prod.ext hend rfl
    obtain ⟨others, final, hrest, hsum⟩ := ih ((j.housekeepSchema schema).run.run db state).2
    have hpurged : ((j.passes db (schema :: rest) state).map (j.purgedIn db)).sum
        = j.purgedIn db ⟨schema, state⟩ + others.purged := by
      rw [hsum]
      rfl
    rw [hpurged]
    unfold housekeepSchemas
    rw [run_bind_of_ok hhere, run_bind_of_ok hrest]
    cases result with
    | ok report =>
      exact ⟨report.plus others, final, rfl, by simp [purgedIn, hend, Housekeeping.plus]⟩
    | error e => exact ⟨others, final, rfl, by simp [purgedIn, hend]⟩

/-- What housekeeping says is what its passes say, one after the other. -/
theorem housekeepSchemas_transcript (db : Database σ) (schemas : List Text) (state : σ) :
    (j.housekeepSchemas schemas).transcript db state
      = (j.passes db schemas state).flatMap (j.saidIn db) := by
  induction schemas generalizing state with
  | nil => rfl
  | cons schema rest ih =>
    obtain ⟨result, hend⟩ := j.exists_endOf db ⟨schema, state⟩
    have hhere : (j.housekeepSchema schema).run.run db state = (.ok result, _) :=
      Prod.ext hend rfl
    obtain ⟨others, final, hrest, -⟩ := j.housekeepSchemas_run db rest
      ((j.housekeepSchema schema).run.run db state).2
    unfold housekeepSchemas
    rw [transcript_bind_of_ok hhere, transcript_bind_of_ok hrest, ih]
    -- adding the reports up says nothing
    cases result with
    | ok report => rw [transcript_pure, List.append_nil]; rfl
    | error e => rw [transcript_pure, List.append_nil]; rfl

/-- Asking for the schemas with a log takes one statement, and ends in those that the
    database lists, or in a failure. -/
theorem schemasWithLog_run {db : Database σ} {state asked : σ}
    {answered : Except StatementError QueryResult}
    (h : db.execute (Catalog.schemasWithLog j.dialect j.logName) state = (answered, asked)) :
    j.schemasWithLog.run.run db state
        = (.ok ((answered.map (·.columnTexts Catalog.tableSchemaColumn)).mapError
            (⟨['*'], .lookup, ·⟩)), asked)
      ∧ j.schemasWithLog.run.transcript db state
        = [.executed (Catalog.schemasWithLog j.dialect j.logName) answered] := by
  have hexecuting : (executing (Catalog.schemasWithLog j.dialect j.logName)).run db state
      = (.ok answered, asked) := by
    rw [run_executing, h]
  have hlift := run_bind_of_ok (f := fun a => (pure (.ok a) : Dialogue (Except JournalError _)))
    hexecuting
  have hsaid : (executing (Catalog.schemasWithLog j.dialect j.logName)).transcript db state
      = [.executed (Catalog.schemasWithLog j.dialect j.logName) answered] := by
    rw [transcript_executing, h]
  cases answered with
  | ok answer => exact ⟨run_bind_of_ok hlift, (transcript_bind_of_ok hlift).trans hsaid⟩
  | error e => exact ⟨run_bind_of_ok hlift, (transcript_bind_of_ok hlift).trans hsaid⟩

/-- Housekeeping fails at once if the schemas with a log cannot be told. -/
theorem housekeeping_run_of_refused {db : Database σ} {state asked : σ} {e : StatementError}
    (h : db.execute (Catalog.schemasWithLog j.dialect j.logName) state = (.error e, asked)) :
    j.housekeeping.run.run db state = (.ok (.error ⟨['*'], .lookup, e⟩), asked) :=
  run_bind_of_ok (j.schemasWithLog_run h).1

/-- Once the schemas with a log are told, housekeeping ends in a report, put together
    from one pass for each of them. -/
theorem housekeeping_run_of_answered {db : Database σ} {state asked : σ} {answer : QueryResult}
    (h : db.execute (Catalog.schemasWithLog j.dialect j.logName) state = (.ok answer, asked)) :
    ∃ (report : Housekeeping) (final : σ),
      j.housekeeping.run.run db state = (.ok (.ok report), final)
        ∧ report.purged = ((j.passes db (answer.columnTexts Catalog.tableSchemaColumn) asked).map
            (j.purgedIn db)).sum
        ∧ j.housekeeping.run.transcript db state
          = .executed (Catalog.schemasWithLog j.dialect j.logName) (.ok answer)
            :: (j.passes db (answer.columnTexts Catalog.tableSchemaColumn) asked).flatMap
              (j.saidIn db) := by
  obtain ⟨hlist, hasked⟩ := j.schemasWithLog_run h
  obtain ⟨report, final, hrest, hsum⟩ :=
    j.housekeepSchemas_run db (answer.columnTexts Catalog.tableSchemaColumn) asked
  refine ⟨report, final, (run_bind_of_ok hlist).trans (run_bind_of_ok hrest), hsum, ?_⟩
  calc j.housekeeping.run.transcript db state
      = j.schemasWithLog.run.transcript db state
        ++ (liftM (j.housekeepSchemas (answer.columnTexts Catalog.tableSchemaColumn))
          : JournalDialogue Housekeeping).run.transcript db asked := transcript_bind_of_ok hlist
    _ = _ := by rw [hasked, transcript_lift, housekeepSchemas_transcript, List.singleton_append]

/-- What housekeeping says by which a table is dropped. -/
theorem isDrop_iff_of_mem_transcript {db : Database σ} {state : σ} {exchange : Exchange}
    (hmem : exchange ∈ j.housekeeping.run.transcript db state) :
    exchange.isDrop j.dialect = true
      ↔ ∃ r result, exchange = .executed (Catalog.dropIfExists j.dialect r) (.ok result) := by
  cases exchange with
  | executed s answer =>
    have hs := (j.housekeeping_keepsTo (prunings_allowsPruning _ _)).statements_of_mem_transcript
      hmem
    simp only [isDrop_iff_of_isPruning hs, Exchange.executed.injEq]
  | lookedUp r answer | askedSchema answer | readClock time => simp [Exchange.isDrop]

/-- **What housekeeping reports.**  If housekeeping ends in a report, the database
    had listed the schemas with a log.  The passes go over all of them in order, each
    beginning with a look for the log, whether or not earlier ones failed; nothing
    else is said.  The drops that were answered are those that are reported and those
    that are lost in passes that failed; so the report counts all of them if and only
    if no pass failed after it had dropped a table. -/
theorem purged_housekeeping_iff {db : Database σ} {state final : σ} {report : Housekeeping}
    (h : j.housekeeping.run.run db state = (.ok (.ok report), final)) :
    ∃ (answer : QueryResult) (asked : σ) (passes : List (Stage Text σ)),
      db.execute (Catalog.schemasWithLog j.dialect j.logName) state = (.ok answer, asked)
        ∧ passes = j.passes db (answer.columnTexts Catalog.tableSchemaColumn) asked
        ∧ passes.map Stage.item = answer.columnTexts Catalog.tableSchemaColumn
        ∧ j.housekeeping.run.transcript db state
          = .executed (Catalog.schemasWithLog j.dialect j.logName) (.ok answer)
            :: passes.flatMap (j.saidIn db)
        ∧ (∀ pass ∈ passes, ∃ found rest,
            j.saidIn db pass = .lookedUp (j.log pass.item) found :: rest)
        ∧ (∀ exchange ∈ j.housekeeping.run.transcript db state,
            exchange.isDrop j.dialect = true ↔ ∃ r result,
              exchange = .executed (Catalog.dropIfExists j.dialect r) (.ok result))
        ∧ report.purged + (passes.map (j.lostIn db)).sum
          = dropsIn j.dialect (j.housekeeping.run.transcript db state)
        ∧ (report.purged = dropsIn j.dialect (j.housekeeping.run.transcript db state)
          ↔ ∀ pass ∈ passes, j.Fails db pass → dropsIn j.dialect (j.saidIn db pass) = 0) := by
  cases hexecute : db.execute (Catalog.schemasWithLog j.dialect j.logName) state with
  | mk answered asked =>
    cases answered with
    | error e =>
      rw [j.housekeeping_run_of_refused hexecute] at h
      injection (Prod.mk.inj h).1 with hfailed
      injection hfailed
    | ok answer =>
      obtain ⟨counted, last, hrun, hsum, hsaid⟩ := j.housekeeping_run_of_answered hexecute
      rw [hrun] at h
      injection (Prod.mk.inj h).1 with hreport
      injection hreport with hreport
      subst hreport
      have hdrops : counted.purged
            + ((j.passes db (answer.columnTexts Catalog.tableSchemaColumn) asked).map
              (j.lostIn db)).sum
          = dropsIn j.dialect (j.housekeeping.run.transcript db state) := by
        rw [hsaid, ← List.singleton_append, dropsIn_append, dropsIn_executed_schemasWithLog,
          Nat.zero_add, hsum, sum_purgedIn_add_sum_lostIn]
      refine ⟨answer, asked, _, rfl, rfl, map_item_stages _ _ _ _, hsaid,
        fun pass _ => j.saidIn_eq_cons db pass, fun _ => j.isDrop_iff_of_mem_transcript, hdrops, ?_⟩
      -- nothing is missing from the report if and only if nothing is lost in any pass
      have hnothing : counted.purged = dropsIn j.dialect (j.housekeeping.run.transcript db state)
          ↔ ((j.passes db (answer.columnTexts Catalog.tableSchemaColumn) asked).map
            (j.lostIn db)).sum = 0 := by
        omega
      rw [hnothing, sum_lostIn_eq_zero_iff]

/-- A dialogue of the journal that was evaluated to a value ran to it. -/
theorem run_of_toOption {db : Database σ} {x : JournalDialogue α} {state : σ} {a : α}
    (h : (x.run.run db state).1.toOption.bind Except.toOption = some a) :
    x.run.run db state = (.ok (.ok a), (x.run.run db state).2) := by
  obtain ⟨ended, hended, hvalue⟩ := Option.bind_eq_some_iff.mp h
  rw [run_eq_of_toOption_eq hended]
  cases ended with
  | error e => injection hvalue
  | ok b => rw [show b = a from Option.some.inj hvalue]

end Journal

/-! ## §5. A table that has expired -/

namespace ExpiredTable

def journal : Journal := ⟨.pg, "alice".toList, 7, none⟩

def refusal : StatementError := ⟨"permission denied".toList, some "42501".toList⟩

/-- The table that has expired. -/
def expired : CatalogEntry := ⟨"public".toList, "old".toList⟩

/-- The rows of an answer with one column. -/
def column (name : Text) (texts : List Text) : List Value :=
  texts.map fun t => .object [(name, .text t)]

/-- A rehearsal with a log in each of the given schemas, all of which list the expired
    table.  Statements that contain the text `refused` fail. -/
def rehearsal (schemas : List Text) (refused : Text) : Rehearsal :=
  { Rehearsal.empty .pg (.ok "public".toList) ⟨0, 0⟩ with
    catalog := schemas.map (⟨·, journal.logName⟩) ++ [expired]
    failures := [⟨refused, refusal⟩]
    responses := [
      ⟨"AS table_schema FROM".toList, column Catalog.tableSchemaColumn schemas⟩,
      ⟨"WHERE expires <".toList, column Catalog.tableNameColumn [expired.table]⟩,
      ⟨"AS table_name FROM".toList, []⟩] }

/-- Two schemas, of which the log of the first cannot be read. -/
def unreadableLog : Rehearsal := rehearsal ["a".toList, "public".toList] "FROM a.".toList

/-- One schema, from whose log no row can be deleted. -/
def refusedDeletion : Rehearsal := rehearsal ["public".toList] "DELETE FROM".toList

end ExpiredTable

open ExpiredTable Rehearsal in
/-- The pass over the schema `a` fails before anything is dropped, the schema `public`
    has its turn all the same, and the table that is dropped there is reported. -/
theorem Journal.purged_housekeeping_of_unreadable_log :
    ∃ (final : Rehearsal) (passes : List (Stage Text Rehearsal)),
      journal.housekeeping.run.run database unreadableLog = (.ok (.ok ⟨1, 0⟩), final)
        ∧ expired ∈ unreadableLog.catalog ∧ expired ∉ final.catalog
        ∧ dropsIn .pg (journal.housekeeping.run.transcript database unreadableLog) = 1
        ∧ passes.map Stage.item = ["a".toList, "public".toList]
        ∧ ∀ pass ∈ passes, journal.Fails database pass →
            dropsIn .pg (journal.saidIn database pass) = 0 := by
  -- all of this is read off one evaluation
  have hevaluated : ((journal.housekeeping.run.run database unreadableLog).1.toOption.bind
          Except.toOption = some ⟨1, 0⟩
        ∧ expired ∉ (journal.housekeeping.run.run database unreadableLog).2.catalog)
      ∧ dropsIn .pg (journal.housekeeping.run.transcript database unreadableLog) = 1
      ∧ (database.execute (Catalog.schemasWithLog journal.dialect journal.logName)
          unreadableLog).1.toOption.map (·.columnTexts Catalog.tableSchemaColumn)
        = some ["a".toList, "public".toList] := by decide +kernel
  obtain ⟨⟨hended, hgone⟩, hdrops, hlisted⟩ := hevaluated
  have hrun := run_of_toOption hended
  obtain ⟨answer, asked, passes, hexecute, -, hitems, -, -, -, -, hcounts⟩ :=
    journal.purged_housekeeping_iff hrun
  rw [hexecute] at hlisted
  exact ⟨_, passes, hrun, by decide, hgone, hdrops,
    hitems.trans (Option.some.inj hlisted), hcounts.mp hdrops.symm⟩

open ExpiredTable Rehearsal in
/-- The row of the table cannot be deleted after the table was dropped, and housekeeping
    reports that nothing was dropped. -/
theorem Journal.not_purged_of_refused_deletion :
    ∃ final : Rehearsal,
      journal.housekeeping.run.run database refusedDeletion = (.ok (.ok ⟨0, 0⟩), final)
        ∧ expired ∈ refusedDeletion.catalog ∧ expired ∉ final.catalog
        ∧ dropsIn .pg (journal.housekeeping.run.transcript database refusedDeletion) = 1 := by
  have hevaluated : ((journal.housekeeping.run.run database refusedDeletion).1.toOption.bind
          Except.toOption = some ⟨0, 0⟩
        ∧ expired ∉ (journal.housekeeping.run.run database refusedDeletion).2.catalog)
      ∧ dropsIn .pg (journal.housekeeping.run.transcript database refusedDeletion) = 1 := by
    decide +kernel
  obtain ⟨⟨hended, hgone⟩, hdrops⟩ := hevaluated
  exact ⟨_, run_of_toOption hended, by decide, hgone, hdrops⟩

end TableLedger
