/-
  TableLedger.Dialogue — programs that talk to a database.

  A dialogue is a program as seen from the database: it either is done, or
  makes one call and goes on with the answer, whatever that is.  Calls are
  made one at a time, so what a program does is settled by the answers it
  gets; a statement about all databases is a statement about all answers.
  A dialogue may also break off with a fault, which no one handles.

  Running a dialogue against a database with a state of any type gives its
  outcome and the state it leaves behind.
-/

import TableLedger.Error
import TableLedger.QueryResult
import TableLedger.Statement

namespace TableLedger

/-! ## §1. Dialogues -/

/-- What breaks a dialogue off. -/
inductive Fault where
  /-- An expiry lies beyond the calendar. -/
  | expiryOutOfRange
  /-- A text would be cut inside a character. -/
  | cutInsideCharacter
  deriving DecidableEq, Repr

/-- A program that talks to a database and ends with a value. -/
inductive Dialogue (α : Type) where
  | done (value : α)
  | fail (fault : Fault)
  /-- Execute a statement. -/
  | execute (statement : Statement) (next : Except StatementError QueryResult → Dialogue α)
  /-- Look a table up in the catalog. -/
  | lookUp (table : TableRef) (next : Except StatementError Bool → Dialogue α)
  /-- Ask for the schema that bare names fall into. -/
  | askSchema (next : Except StatementError Text → Dialogue α)
  /-- Read the clock. -/
  | readClock (next : Timestamp → Dialogue α)

namespace Dialogue

variable {α β : Type}

/-- Go on with another dialogue. -/
def bind : Dialogue α → (α → Dialogue β) → Dialogue β
  | done a, f => f a
  | fail fault, _ => fail fault
  | execute s next, f => execute s fun answer => (next answer).bind f
  | lookUp t next, f => lookUp t fun answer => (next answer).bind f
  | askSchema next, f => askSchema fun answer => (next answer).bind f
  | readClock next, f => readClock fun time => (next time).bind f

instance : Monad Dialogue where
  pure := done
  bind := bind

/-- Execute a statement and give its answer. -/
def executing (s : Statement) : Dialogue (Except StatementError QueryResult) := execute s done

/-- Look a table up and give the answer. -/
def lookingUp (t : TableRef) : Dialogue (Except StatementError Bool) := lookUp t done

/-- Ask for the current schema and give the answer. -/
def askingSchema : Dialogue (Except StatementError Text) := askSchema done

/-- Read the clock and give the time. -/
def readingClock : Dialogue Timestamp := readClock done

/-! ## §2. Databases -/

end Dialogue

/-- A database whose state is of type `σ`: how it answers each call, and how
    the call changes it. -/
structure Database (σ : Type) where
  execute : Statement → σ → Except StatementError QueryResult × σ
  lookUp : TableRef → σ → Except StatementError Bool × σ
  askSchema : σ → Except StatementError Text × σ
  readClock : σ → Timestamp × σ

namespace Dialogue

variable {α σ : Type}

/-- Run a dialogue against a database, from a state of it. -/
def run (db : Database σ) : Dialogue α → σ → Except Fault α × σ
  | done a, state => (.ok a, state)
  | fail fault, state => (.error fault, state)
  | execute s next, state =>
    let answered := db.execute s state
    run db (next answered.1) answered.2
  | lookUp t next, state =>
    let answered := db.lookUp t state
    run db (next answered.1) answered.2
  | askSchema next, state =>
    let answered := db.askSchema state
    run db (next answered.1) answered.2
  | readClock next, state =>
    let read := db.readClock state
    run db (next read.1) read.2

end Dialogue

end TableLedger
