/-
  TableLedger.Proofs.Session.RefusedScript — a script that comes to nothing.

  A script comes to nothing in one of two ways: the database refuses it, or it
  cannot be classified.  A script may hold any number of statements, and the one
  that cannot be read may stand behind others that were read well.  What was read
  by then is dropped, not recorded: classifying comes before the registry is
  touched and before anything is said about logs and indexes.

  Main statement:
    • `refused_script_leaves_session` — the session is the one before, idle, and
      nothing was said but the script itself.
-/

import Mathlib.Control.Monad.Basic
import TableLedger.Proofs.Session.Outcome
import TableLedger.Proofs.Transcript

namespace TableLedger

variable {σ : Type}

/-! ## §1. Scripts that come to nothing -/

namespace Session

open Dialogue

variable (db : Database σ) {s : Session} {script : Text} {fault : ReferenceError}

/-- A script that cannot be classified is not recorded, in part or at all. -/
theorem postProcess_ends_of_fault (temporary : Bool)
    (h : Script.classify s.dialect s.defaultSchema script = .error fault) (state : σ) :
    (s.postProcess script temporary).Ends db state (.error (.reference fault), s) state [] := by
  unfold postProcess
  rw [h]
  exact ends_pure db _ state

/-- The same in the phase that recording is done in. -/
theorem postProcess_ends_of_fault_begun (temporary : Bool)
    (h : Script.classify s.dialect s.defaultSchema script = .error fault) (state : σ) :
    ({ s with phase := .postProcessing }.postProcess script temporary).Ends db state
      (.error (.reference fault), { s with phase := .postProcessing }) state [] :=
  postProcess_ends_of_fault db (s := { s with phase := .postProcessing }) temporary h state

variable {db} {state : σ}

/-- The database refuses the script. -/
theorem query_ends_of_refusal {options : QueryOptions} {e : StatementError}
    (hexecute : (db.execute (.plain script) state).1 = .error e) :
    (s.query script options).Ends db state
      (if options.strict then .error (.statement e) else .ok none, { s with phase := .idle })
      (db.execute (.plain script) state).2 [.executed (.plain script) (.error e)] := by
  have hexecuting := ends_executing db (.plain script) state
  rw [hexecute] at hexecuting
  unfold query
  exact hexecuting.bind_pure rfl

/-- The database executes a script that cannot be classified. -/
theorem query_ends_of_fault {options : QueryOptions} {rows : QueryResult}
    (hexecute : (db.execute (.plain script) state).1 = .ok rows)
    (hrecorded : options.unrecorded = false)
    (hclassify : Script.classify s.dialect s.defaultSchema script = .error fault) :
    (s.query script options).Ends db state
      (if options.strict then .error (.reference fault) else .ok (some rows),
        { s with phase := .idle })
      (db.execute (.plain script) state).2 [.executed (.plain script) (.ok rows)] := by
  have hexecuting := ends_executing db (.plain script) state
  rw [hexecute] at hexecuting
  have hpost := postProcess_ends_of_fault_begun db options.temporary hclassify
    (db.execute (.plain script) state).2
  unfold query
  refine hexecuting.bind ?_
  simp only [hrecorded, Bool.false_eq_true, if_false]
  exact hpost.bind_pure rfl

/-- A script that cannot be classified was executed elsewhere. -/
theorem recordStatement_ends_of_fault (db : Database σ)
    (hclassify : Script.classify s.dialect s.defaultSchema script = .error fault) (state : σ) :
    (s.recordStatement script).Ends db state
      (.error (.reference fault), { s with phase := .idle }) state [] := by
  unfold recordStatement
  exact (postProcess_ends_of_fault_begun db true hclassify state).bind_pure rfl

/-- **A script that comes to nothing leaves the session as it was.**  The database
    refuses the script; or it executes the script, which is to be recorded but
    cannot be classified; or such a script was executed elsewhere.  The session
    afterwards is the one before with its phase idle, so every list of its registry
    is untouched; the database is as the script left it, for nothing else is said to
    it; and the caller learns of the failure, from a query only if it is strict. -/
theorem refused_script_leaves_session (db : Database σ) (s : Session) (script : Text) (state : σ) :
    (∀ (options : QueryOptions) (e : StatementError),
      (db.execute (.plain script) state).1 = .error e →
        (s.query script options).run db state
            = (.ok (if options.strict then .error (.statement e) else .ok none,
                { s with phase := .idle }), (db.execute (.plain script) state).2)
          ∧ (s.query script options).transcript db state
            = [.executed (.plain script) (.error e)])
      ∧ ∀ fault, Script.classify s.dialect s.defaultSchema script = .error fault →
        (∀ (options : QueryOptions) (rows : QueryResult), options.unrecorded = false →
          (db.execute (.plain script) state).1 = .ok rows →
            (s.query script options).run db state
                = (.ok (if options.strict then .error (.reference fault) else .ok (some rows),
                    { s with phase := .idle }), (db.execute (.plain script) state).2)
              ∧ (s.query script options).transcript db state
                = [.executed (.plain script) (.ok rows)])
          ∧ (s.recordStatement script).run db state
              = (.ok (.error (.reference fault), { s with phase := .idle }), state)
          ∧ (s.recordStatement script).transcript db state = [] := by
  refine ⟨?_, ?_⟩
  · intro options e hexecute
    have hends : (s.query script options).Ends db state _ _ _ := query_ends_of_refusal hexecute
    exact ⟨hends.run, hends.transcript⟩
  · intro fault hclassify
    have hrecording := recordStatement_ends_of_fault db hclassify state
    refine ⟨?_, hrecording.run, hrecording.transcript⟩
    intro options rows hrecorded hexecute
    have hends := query_ends_of_fault hexecute hrecorded hclassify
    exact ⟨hends.run, hends.transcript⟩

end Session

/-! ## §2. A creation in front of a reference that cannot be read -/

namespace GrudgingDatabase

/-- A script whose first statement can be read and whose second one cannot. -/
def halfRead : Text := "CREATE TABLE u (id int); DROP TABLE a.b.c.d.e".toList

/-- The fault of its second statement. -/
def unreadable : ReferenceError := ⟨"a.b.c.d.e".toList, .tooManyParts 5⟩

/-- A session that has created, dropped and renamed tables. -/
def busy : Session :=
  let t : TableRef := .inSchema "public".toList "t".toList
  let u : TableRef := .inSchema "public".toList "u".toList
  let v : TableRef := .inSchema "public".toList "v".toList
  { session with registry := ⟨[v], [t], [⟨u, t⟩]⟩ }

theorem classify_halfRead :
    Script.classify busy.dialect busy.defaultSchema halfRead = .error unreadable := by
  decide +kernel

end GrudgingDatabase

open GrudgingDatabase in
/-- The three ways in which a script comes to nothing: it is refused, it is executed
    here, it was executed elsewhere.  The session is the one before each time. -/
theorem Session.half_read_script_leaves_session :
    (busy.query halfRead .standard).run (database renameT) ()
        = (.ok (.error (.statement refusal), busy), ())
      ∧ (busy.query halfRead .bestEffort).run (database halfRead) ()
        = (.ok (.ok (some ⟨[]⟩), busy), ())
      ∧ (busy.recordStatement halfRead).run (database renameT) ()
        = (.ok (.error (.reference unreadable), busy), ()) := by
  have hrefused : ((database renameT).execute (.plain halfRead) ()).1 = .error refusal := rfl
  have hexecuted : ((database halfRead).execute (.plain halfRead) ()).1 = .ok ⟨[]⟩ := rfl
  obtain ⟨hquery, hrecord⟩ := refused_script_leaves_session (database renameT) busy halfRead ()
  obtain ⟨-, hfault⟩ := refused_script_leaves_session (database halfRead) busy halfRead ()
  exact ⟨(hquery .standard refusal hrefused).1,
    ((hfault _ classify_halfRead).1 .bestEffort ⟨[]⟩ rfl hexecuted).1,
    (hrecord _ classify_halfRead).2.1⟩

end TableLedger
