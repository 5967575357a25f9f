/-
  TableLedger.Proofs.Session.Outcome — what the outcome of a statement depends on.

  A session keeps logs and indexes in line with what its scripts did, and a
  database may answer all of that as it likes.  None of those answers reaches
  the caller or the registry: once the script itself was executed, the answer
  to the caller and the session left behind are settled by the session, the
  script and the options.  So two databases that execute a script alike cannot
  be told apart by a session, however they treat its bookkeeping.

  Main statements:
    • `query_outcome`, `recordStatement_outcome` — the answer and the session
      after a statement, from what is known before its bookkeeping,
    • `outcome_eq_of_execute_eq` — two databases, one outcome.
-/

import Mathlib.Control.Monad.Basic
import TableLedger.Proofs.Session.Bookkeeping
import TableLedger.Proofs.Session.Run
import TableLedger.Proofs.Session.TruthfulCatalog

namespace TableLedger

open Dialogue

variable {σ σ₁ σ₂ : Type}

namespace Session

/-! ## §1. One database -/

/-- The answer to a query whose script gave `rows`.  A script that cannot be
    classified is reported if it was to be recorded, and strictly so. -/
def answerOf (s : Session) (sql : Text) (options : QueryOptions) (rows : QueryResult) :
    Except Error (Option QueryResult) :=
  match Script.classify s.dialect s.defaultSchema sql with
  | .error fault =>
    if options.strict && !options.unrecorded then .error (.reference fault) else .ok (some rows)
  | .ok _ => .ok (some rows)

/-- The session after a query whose script was executed. -/
def afterQuery (s : Session) (sql : Text) (options : QueryOptions) : Session :=
  { (if options.unrecorded then s else s.afterScript sql) with phase := .idle }

/-- Only a strict query reports that its script cannot be classified. -/
theorem answerOf_eq_error_iff {s : Session} {sql : Text} {options : QueryOptions}
    {rows : QueryResult} {e : Error} :
    s.answerOf sql options rows = .error e
      ↔ options.strict = true ∧ options.unrecorded = false
        ∧ ∃ fault, Script.classify s.dialect s.defaultSchema sql = .error fault
          ∧ e = .reference fault := by
  unfold answerOf
  cases Script.classify s.dialect s.defaultSchema sql with
  | ok c => simp
  | error fault =>
    simp only
    split
    · next hreported =>
      obtain ⟨hstrict, hrecorded⟩ : options.strict = true ∧ options.unrecorded = false := by
        simpa using hreported
      simp [hstrict, hrecorded, eq_comm]
    · next hpassed =>
      have hpassed : options.strict = true → options.unrecorded = true := by simpa using hpassed
      simp +contextual [hpassed]

/-- Any other answer is the rows of the script. -/
theorem eq_some_of_answerOf_eq_ok {s : Session} {sql : Text} {options : QueryOptions}
    {rows : QueryResult} {answer : Option QueryResult}
    (h : s.answerOf sql options rows = .ok answer) : answer = some rows := by
  unfold answerOf at h
  cases hclassify : Script.classify s.dialect s.defaultSchema sql with
  | ok c =>
    rw [hclassify] at h
    injection h with h
    exact h.symm
  | error fault =>
    rw [hclassify] at h
    simp only at h
    split at h
    · injection h
    · injection h with h
      exact h.symm

/-- The phase that a script is recorded in leaves no trace. -/
theorem afterScript_withPhase (s : Session) (before after : Phase) (script : Text) :
    { { s with phase := before }.afterScript script with phase := after }
      = { s.afterScript script with phase := after } := by
  unfold afterScript
  simp only [dialect]
  cases Script.classify s.context.dialect s.defaultSchema script with
  | ok c => rfl
  | error fault => rfl

variable {db : Database σ} {s after : Session} {state final : σ}

/-- What a query answers once its script was executed, and the session that it
    leaves behind, whatever the database makes of the rest. -/
theorem query_outcome {sql : Text} {options : QueryOptions} {rows : QueryResult}
    {answer : Except Error (Option QueryResult)}
    (hexecute : (db.execute (.plain sql) state).1 = .ok rows)
    (h : (s.query sql options).run db state = (.ok (answer, after), final)) :
    answer = s.answerOf sql options rows ∧ after = s.afterQuery sql options := by
  unfold query at h
  rw [run_bind_of_ok (run_executing db (.plain sql) state)] at h
  simp only [hexecute] at h
  unfold answerOf afterQuery
  cases hskip : options.unrecorded with
  | true =>
    -- the script is not looked at again
    simp only [hskip, if_true, run_pure, Prod.mk.injEq, Except.ok.injEq] at h
    obtain ⟨⟨rfl, rfl⟩, -⟩ := h
    refine ⟨?_, rfl⟩
    split
    · simp
    · rfl
  | false =>
    simp only [hskip, Bool.false_eq_true, if_false] at h
    obtain ⟨⟨recorded, middle⟩, posted, hpost, h⟩ := run_bind_eq_ok h
    obtain ⟨hrecorded, hmiddle⟩ := (postProcess_ensures _ sql options.temporary).of_run_eq hpost
    simp only [run_pure, Prod.mk.injEq, Except.ok.injEq] at h
    obtain ⟨⟨rfl, rfl⟩, -⟩ := h
    refine ⟨?_, ?_⟩
    · -- only a script that cannot be classified makes a difference to the answer
      have hrecorded : recorded
          = (Script.classify s.dialect s.defaultSchema sql).mapError Error.reference := hrecorded
      rw [hrecorded]
      cases Script.classify s.dialect s.defaultSchema sql with
      | ok c => rfl
      | error fault => simp [Except.mapError]
    · have hmiddle : middle = afterScript { s with phase := .postProcessing } sql := hmiddle
      rw [hmiddle]
      exact s.afterScript_withPhase _ _ sql

/-- What recording a script answers, and the session that it leaves behind. -/
theorem recordStatement_outcome {script : Text} {answer : Except Error Classification}
    (h : (s.recordStatement script).run db state = (.ok (answer, after), final)) :
    answer = (Script.classify s.dialect s.defaultSchema script).mapError Error.reference
      ∧ after = { s.afterScript script with phase := .idle } := by
  obtain ⟨hanswer, hafter⟩ := (s.recordStatement_ensures script).of_run_eq h
  refine ⟨hanswer, ?_⟩
  rw [← s.afterScript_withPhase .postProcessing .idle script]
  exact hafter

/-- What recording a script answers is its classification. -/
theorem classify_of_recordStatement_run {script : Text} {found : Classification}
    (h : (s.recordStatement script).run db state = (.ok (.ok found, after), final)) :
    Script.classify s.dialect s.defaultSchema script = .ok found := by
  have hanswer := (recordStatement_outcome h).1
  cases hclassified : Script.classify s.dialect s.defaultSchema script with
  | error fault => rw [hclassified] at hanswer; injection hanswer
  | ok made =>
    rw [hclassified] at hanswer
    injection hanswer with hmade
    rw [hmade]

/-! ## §2. Two databases -/

/-- **Bookkeeping never changes the outcome.**  Two databases give the same rows
    for a script, and differ in everything else that the session asks of them as
    they like.  If neither run breaks off, the query answers the same in both:
    the rows, or, exactly when it is strict, the script was to be recorded and it
    cannot be classified, that failure.  It leaves the same session behind,
    idle again.  The same holds of recording a script, over any two databases. -/
theorem outcome_eq_of_execute_eq (db₁ : Database σ₁) (db₂ : Database σ₂) (s : Session)
    (script : Text) :
    (∀ (options : QueryOptions) (rows : QueryResult) (state₁ final₁ : σ₁) (state₂ final₂ : σ₂)
        (answer₁ answer₂ : Except Error (Option QueryResult)) (after₁ after₂ : Session),
      (db₁.execute (.plain script) state₁).1 = .ok rows →
      (db₂.execute (.plain script) state₂).1 = .ok rows →
      (s.query script options).run db₁ state₁ = (.ok (answer₁, after₁), final₁) →
      (s.query script options).run db₂ state₂ = (.ok (answer₂, after₂), final₂) →
        answer₁ = answer₂ ∧ after₁ = after₂ ∧ after₁.phase = .idle
          ∧ (∀ answer, answer₁ = .ok answer → answer = some rows)
          ∧ (∀ e, answer₁ = .error e ↔ options.strict = true ∧ options.unrecorded = false
              ∧ ∃ fault, Script.classify s.dialect s.defaultSchema script = .error fault
                ∧ e = .reference fault))
      ∧ ∀ (state₁ final₁ : σ₁) (state₂ final₂ : σ₂)
          (answer₁ answer₂ : Except Error Classification) (after₁ after₂ : Session),
        (s.recordStatement script).run db₁ state₁ = (.ok (answer₁, after₁), final₁) →
        (s.recordStatement script).run db₂ state₂ = (.ok (answer₂, after₂), final₂) →
          answer₁ = answer₂ ∧ after₁ = after₂ ∧ after₁.phase = .idle := by
  refine ⟨?_, ?_⟩
  · intro options rows state₁ final₁ state₂ final₂ answer₁ answer₂ after₁ after₂ hexecute₁
      hexecute₂ hrun₁ hrun₂
    obtain ⟨hanswer₁, hafter₁⟩ := query_outcome hexecute₁ hrun₁
    obtain ⟨hanswer₂, hafter₂⟩ := query_outcome hexecute₂ hrun₂
    refine ⟨hanswer₁.trans hanswer₂.symm, hafter₁.trans hafter₂.symm, ?_, ?_, ?_⟩
    · rw [hafter₁]
      rfl
    · intro answer hok
      exact eq_some_of_answerOf_eq_ok (hanswer₁.symm.trans hok)
    · intro e
      rw [hanswer₁]
      exact answerOf_eq_error_iff
  · intro state₁ final₁ state₂ final₂ answer₁ answer₂ after₁ after₂ hrun₁ hrun₂
    obtain ⟨hanswer₁, hafter₁⟩ := recordStatement_outcome hrun₁
    obtain ⟨hanswer₂, hafter₂⟩ := recordStatement_outcome hrun₂
    refine ⟨hanswer₁.trans hanswer₂.symm, hafter₁.trans hafter₂.symm, ?_⟩
    rw [hafter₁]

end Session

/-! ## §3. A database that does its bookkeeping and one that does not -/

namespace GrudgingDatabase

def refusal : StatementError := ⟨"permission denied".toList, none⟩

/-- A database that executes one script and refuses everything else. -/
def database (script : Text) : Database Unit where
  execute s _ := (if s = .plain script then .ok ⟨[]⟩ else .error refusal, ())
  lookUp _ _ := (.error refusal, ())
  askSchema _ := (.error refusal, ())
  readClock _ := (⟨0, 0⟩, ())

def renameT : Text := "ALTER TABLE t RENAME TO u".toList

def events : List TableEvent :=
  [.renamed (.inSchema "public".toList "t".toList) (.inSchema "public".toList "u".toList)]

/-- A session that is about to rename the table `t`. -/
def session : Session := PlainDatabase.newSession "public".toList

/-- The session with the rename recorded. -/
def recorded : Session :=
  let t : TableRef := .inSchema "public".toList "t".toList
  let u : TableRef := .inSchema "public".toList "u".toList
  { session with registry := ⟨[], [t], [⟨u, t⟩]⟩, phase := .postProcessing }

/-- The tables of a plain database that keeps a log. -/
def logged : List Text := ["public.__temp_log_table_alice__".toList]

theorem classify_renameT :
    Script.classify session.dialect session.defaultSchema renameT = .ok ⟨events⟩ := by
  decide +kernel

end GrudgingDatabase

open GrudgingDatabase in
/-- A rename where the log is kept and one where every lookup, deletion and update
    is refused: the caller and the registry see the same. -/
theorem Session.outcome_eq_of_refused_bookkeeping :
    ∃ (after₁ after₂ : Session) (final : List Text),
      (session.query renameT .standard).run PlainDatabase.database logged
          = (.ok (.ok (some ⟨[]⟩), after₁), final)
        ∧ (session.query renameT .standard).run (database renameT) ()
          = (.ok (.ok (some ⟨[]⟩), after₂), ())
        ∧ after₁ = after₂ ∧ after₁.phase = .idle := by
  have hexecute₁ : PlainDatabase.database.execute (.plain renameT) logged = (.ok ⟨[]⟩, logged) :=
    rfl
  have hexecute₂ : (database renameT).execute (.plain renameT) () = (.ok ⟨[]⟩, ()) := rfl
  have hevents₁ : (recordEvents true session.begun events).run PlainDatabase.database logged
      = (.ok recorded, logged) := rfl
  have hevents₂ : (recordEvents true session.begun events).run (database renameT) ()
      = (.ok recorded, ()) := rfl
  have hrun₁ := query_run_of_classify hexecute₁
    (show QueryOptions.standard.unrecorded = false from rfl) classify_renameT hevents₁
  have hrun₂ := query_run_of_classify hexecute₂
    (show QueryOptions.standard.unrecorded = false from rfl) classify_renameT hevents₂
  obtain ⟨hquery, -⟩ := outcome_eq_of_execute_eq PlainDatabase.database (database renameT)
    session renameT
  obtain ⟨-, hafter, hidle, -, -⟩ := hquery .standard ⟨[]⟩ _ _ _ _ _ _ _ _ rfl rfl hrun₁ hrun₂
  exact ⟨_, _, _, hrun₁, hrun₂, hafter, hidle⟩

end TableLedger
