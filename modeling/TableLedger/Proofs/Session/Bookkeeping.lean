/-
  TableLedger.Proofs.Session.Bookkeeping — what recording a script does.

  Recording sends a few kinds of statements to the database, none of which
  comes from the script, and its outcome does not depend on any answer:
  the registry takes in the events of the classification one by one.  Logs are
  created and filled in for the loggable tables among those created, and in the
  schemas of these.

  Main statements:
    • `forgetLogged_ensures` — forgetting a table deletes rows and never breaks off,
    • `recordEvents_follows`, `recordEvents_ensures` — events are taken into the
      registry in order,
    • `postProcess_ensures`, `recordStatement_ensures` — what recording a
      script answers and the session it leaves behind.
-/

import TableLedger.Proofs.Dialogue
import TableLedger.Session.Basic

namespace TableLedger

open Dialogue

/-! ## §1. Bookkeeping statements -/

/-- A statement by which a session keeps its logs and its indexes in line. -/
inductive IsBookkeeping (d : Dialect) : Statement → Prop where
  | log (schema log : Text) (command : LogCommand) :
      IsBookkeeping d (command.statement d schema log)
  | listIndexes (r : TableRef) : IsBookkeeping d (Catalog.listIndexes d r)
  | renameIndex (r : TableRef) (index newIndex : Text) :
      IsBookkeeping d (Catalog.renameIndex d r index newIndex)

/-- A statement that deletes the rows of one table from a log. -/
inductive IsRowDeletion (d : Dialect) : Statement → Prop where
  | delete (schema log table : Text) :
      IsRowDeletion d ((LogCommand.delete table).statement d schema log)

/-- To delete rows is bookkeeping. -/
theorem IsRowDeletion.isBookkeeping {d : Dialect} {s : Statement} (h : IsRowDeletion d s) :
    IsBookkeeping d s := by
  obtain ⟨schema, log, table⟩ := h
  exact .log schema log (.delete table)

/-- What the bookkeeping of a script may do.  An expiry or the name of an index
    may break it off. -/
def bookkeeping (d : Dialect) : Conduct := ⟨IsBookkeeping d, True⟩

/-- What forgetting a table may do. -/
def rowDeletions (d : Dialect) : Conduct := ⟨IsRowDeletion d, False⟩

/-- The row that a journal writes for a table. -/
structure LogEntry.IsFor (e : LogEntry) (j : Journal) (r : TableRef) (temporary : Bool) :
    Prop where
  owner : e.owner = j.owner
  schema : e.schema = r.schema
  table : e.table = r.table
  expires : e.expires.isSome = temporary

/-- A statement by which a journal and the indexes follow events: the log of a
    schema is created, and filled in, for a loggable table of that schema that the
    events created. -/
inductive IsFollowing (j : Journal) (events : List TableEvent) : Statement → Prop where
  | create {r : TableRef} (hcreated : .created r ∈ events) (hloggable : j.isLoggable r = true) :
      IsFollowing j events (LogCommand.create.statement j.dialect r.schema j.logName)
  | insert {r : TableRef} {e : LogEntry} (hcreated : .created r ∈ events)
      (hloggable : j.isLoggable r = true) (hentry : e.IsFor j r true) :
      IsFollowing j events ((LogCommand.insert e).statement j.dialect r.schema j.logName)
  | delete (schema table : Text) :
      IsFollowing j events ((LogCommand.delete table).statement j.dialect schema j.logName)
  | rename (schema old new : Text) :
      IsFollowing j events ((LogCommand.rename old new).statement j.dialect schema j.logName)
  | listIndexes (r : TableRef) : IsFollowing j events (Catalog.listIndexes j.dialect r)
  | renameIndex (r : TableRef) (index newIndex : Text) :
      IsFollowing j events (Catalog.renameIndex j.dialect r index newIndex)

theorem IsFollowing.isBookkeeping {j : Journal} {events : List TableEvent} {s : Statement}
    (h : IsFollowing j events s) : IsBookkeeping j.dialect s := by
  cases h with
  | create | insert | delete | rename => exact .log _ _ _
  | listIndexes r => exact .listIndexes r
  | renameIndex r index newIndex => exact .renameIndex r index newIndex

/-- What following events may do. -/
def following (j : Journal) (events : List TableEvent) : Conduct := ⟨IsFollowing j events, True⟩

/-! ## §2. Journals -/

namespace Journal

variable {α β : Type} {conduct : Conduct}

/-- Whether a dialogue of the journal keeps to a conduct. -/
def KeepsTo (conduct : Conduct) (x : JournalDialogue α) : Prop :=
  x.run.Ensures conduct fun _ => True

theorem keepsTo_pure (a : α) : KeepsTo conduct (pure a : JournalDialogue α) :=
  ensures_pure trivial

theorem keepsTo_bind {x : JournalDialogue α} {f : α → JournalDialogue β}
    (hx : KeepsTo conduct x) (hf : ∀ a, KeepsTo conduct (f a)) :
    KeepsTo conduct (x >>= f) := by
  refine ensures_bind hx fun result _ => ?_
  cases result with
  | ok a => exact hf a
  | error e => exact ensures_pure trivial

theorem keepsTo_lift {post : α → Prop} {x : Dialogue α} (hx : x.Ensures conduct post) :
    KeepsTo conduct (liftM x : JournalDialogue α) :=
  ensures_bind hx fun _ _ => ensures_pure trivial

/-- What comes after a call may rely on what the call ensures. -/
theorem keepsTo_lift_bind {post : α → Prop} {x : Dialogue α} {f : α → JournalDialogue β}
    (hx : x.Ensures conduct post) (hf : ∀ a, post a → KeepsTo conduct (f a)) :
    KeepsTo conduct (liftM x >>= f) := by
  have hlift : (x >>= fun a => pure (Except.ok a)).Ensures conduct
      fun result : Except JournalError α => ∃ a, result = .ok a ∧ post a :=
    ensures_bind hx fun a ha => ensures_pure ⟨a, rfl, ha⟩
  refine ensures_bind hlift ?_
  rintro _ ⟨a, rfl, ha⟩
  exact hf a ha

theorem keepsTo_discard {x : JournalDialogue α} (hx : KeepsTo conduct x) :
    KeepsTo conduct (discard x) :=
  keepsTo_bind hx fun _ => keepsTo_pure _

theorem keepsTo_answer (schema : Text) (operation : JournalOperation)
    (a : Except StatementError α) : KeepsTo conduct (answer schema operation a) := by
  cases a with
  | ok a => exact keepsTo_pure a
  | error e => exact ensures_pure trivial

/-- What comes after a call goes on with its answer. -/
theorem run_lift_bind_of_ok {σ : Type} {db : Database σ} {x : Dialogue α}
    {f : α → JournalDialogue β} {state after : σ} {a : α} (h : x.run db state = (.ok a, after)) :
    ((liftM x : JournalDialogue α) >>= f).run.run db state = (f a).run.run db after := by
  have hlift : (x >>= fun a => pure (Except.ok a)).run db state
      = (.ok (.ok a : Except JournalError α), after) := run_bind_of_ok h
  exact run_bind_of_ok hlift

variable (j : Journal)

/-- A command may be sent if the conduct allows its statement. -/
theorem keepsTo_perform {schema : Text} {command : LogCommand}
    (h : conduct.statements (command.statement j.dialect schema j.logName)) :
    KeepsTo conduct (j.perform schema command) :=
  keepsTo_bind (keepsTo_lift (ensures_executing h)) fun _ => keepsTo_answer _ _ _

theorem keepsTo_logExists (schema : Text) : KeepsTo conduct (j.logExists schema) :=
  keepsTo_bind (keepsTo_lift (ensures_lookingUp _)) fun _ => keepsTo_answer _ _ _

/-- A log is created at most. -/
theorem keepsTo_ensureLog {schema : Text}
    (hcreate : conduct.statements (LogCommand.create.statement j.dialect schema j.logName)) :
    KeepsTo conduct (j.ensureLog schema) := by
  refine keepsTo_bind (j.keepsTo_logExists schema) fun found => ?_
  cases found with
  | true => exact keepsTo_pure _
  | false =>
    exact keepsTo_bind (keepsTo_discard (j.keepsTo_perform hcreate)) fun _ => keepsTo_pure _

/-- A row is put into a log that may have to be created, in place of an older one. -/
theorem keepsTo_insert {entry : LogEntry}
    (hcreate : conduct.statements (LogCommand.create.statement j.dialect entry.schema j.logName))
    (hdelete : conduct.statements
      ((LogCommand.delete entry.table).statement j.dialect entry.schema j.logName))
    (hinsert : conduct.statements
      ((LogCommand.insert entry).statement j.dialect entry.schema j.logName)) :
    KeepsTo conduct (j.insert entry) := by
  refine keepsTo_bind (keepsTo_discard (j.keepsTo_ensureLog hcreate)) fun _ => ?_
  refine keepsTo_bind (keepsTo_discard (j.keepsTo_perform hdelete)) fun _ => ?_
  exact keepsTo_discard (j.keepsTo_perform hinsert)

/-- Making an entry sends no statement, but it may break off. -/
theorem entryNow_ensures (hfaults : conduct.faults) (r : TableRef) (temporary : Bool) :
    (j.entryNow r temporary).Ensures conduct fun e => e.IsFor j r temporary := by
  refine ensures_bind ensures_readingClock fun now _ => ?_
  cases temporary with
  | false => exact ensures_pure ⟨rfl, rfl, rfl, rfl⟩
  | true =>
    rw [if_pos rfl]
    split
    · exact ensures_pure ⟨rfl, rfl, rfl, rfl⟩
    · -- the expiry does not fit into the calendar: this breaks off
      exact hfaults

variable {events : List TableEvent}

/-- To track a table that was created is to follow the creation. -/
theorem trackCreated_keepsTo {r : TableRef} (hcreated : .created r ∈ events) :
    KeepsTo (following j events) (j.trackCreated r true) := by
  unfold trackCreated
  split
  · exact keepsTo_pure _
  · next hloggable =>
    have hloggable : j.isLoggable r = true := by simpa using hloggable
    refine keepsTo_lift_bind (j.entryNow_ensures trivial r true) fun e he => ?_
    have hinsert : KeepsTo (following j events) (j.insert e) := by
      refine j.keepsTo_insert ?_ (.delete _ _) ?_
      · exact he.schema ▸ .create hcreated hloggable
      · exact he.schema ▸ .insert hcreated hloggable he
    exact keepsTo_bind hinsert fun _ => keepsTo_pure _

/-- To track a renamed one is to follow the rename. -/
theorem trackRenamed_keepsTo (schema old new : Text) :
    KeepsTo (following j events) (j.trackRenamed schema old new) := by
  refine keepsTo_bind (j.keepsTo_logExists schema) fun found => ?_
  cases found with
  | false => exact keepsTo_pure _
  | true =>
    exact keepsTo_bind (keepsTo_discard (j.keepsTo_perform (.delete _ _))) fun _ =>
      keepsTo_bind (keepsTo_discard (j.keepsTo_perform (.rename _ _ _))) fun _ => keepsTo_pure _

/-- Following a drop keeps to any conduct in which rows may be deleted. -/
theorem keepsTo_trackDropped {schema table : Text}
    (h : conduct.statements ((LogCommand.delete table).statement j.dialect schema j.logName)) :
    KeepsTo conduct (j.trackDropped schema table) := by
  refine keepsTo_bind (j.keepsTo_logExists schema) fun found => ?_
  cases found with
  | false => exact keepsTo_pure _
  | true => exact keepsTo_bind (keepsTo_discard (j.keepsTo_perform h)) fun _ => keepsTo_pure _

end Journal

/-! ## §3. Renamed indexes -/

namespace IndexRename

variable {conduct : Conduct} {d : Dialect} (table : TableRef) (old : Text)

/-- One index is renamed by a statement about it, or breaks the dialogue off. -/
theorem renameIndex_ensures
    (hrename : ∀ r index newIndex, conduct.statements (Catalog.renameIndex d r index newIndex))
    (hfaults : conduct.faults) (index : Text) :
    (renameIndex d table old index).Ensures conduct fun _ => True := by
  unfold renameIndex
  split
  · exact ensures_pure trivial
  · -- the old name would be cut out inside a character: this breaks off
    exact hfaults
  · refine ensures_bind (ensures_executing (hrename table index _)) fun answer _ => ?_
    cases answer with
    | ok _ => exact ensures_pure trivial
    | error _ => exact ensures_pure trivial

theorem renameEach_ensures
    (hrename : ∀ r index newIndex, conduct.statements (Catalog.renameIndex d r index newIndex))
    (hfaults : conduct.faults) (indexes : List Text) :
    (renameEach d table old indexes).Ensures conduct fun _ => True := by
  induction indexes with
  | nil => exact ensures_pure trivial
  | cons index rest ih =>
    refine ensures_bind (renameIndex_ensures table old hrename hfaults index) fun _ _ => ?_
    exact ensures_bind ih fun _ _ => ensures_pure trivial

/-- Renaming indexes keeps to any conduct in which indexes may be listed and
    renamed, and which may break off. -/
theorem renameIndexes_ensures (hlist : ∀ r, conduct.statements (Catalog.listIndexes d r))
    (hrename : ∀ r index newIndex, conduct.statements (Catalog.renameIndex d r index newIndex))
    (hfaults : conduct.faults) :
    (renameIndexes d table old).Ensures conduct fun _ => True := by
  unfold renameIndexes
  split
  · exact ensures_pure trivial
  · refine ensures_bind (ensures_executing (hlist table)) fun answer _ => ?_
    cases answer with
    | error e => exact ensures_pure trivial
    | ok result =>
      exact ensures_bind (renameEach_ensures table old hrename hfaults _) fun _ _ =>
        ensures_pure trivial

end IndexRename

/-! ## §4. Sessions -/

namespace Session

variable (s : Session)

/-- Forgetting a table keeps to any conduct in which rows may be deleted. -/
theorem ensures_forgetLogged {conduct : Conduct}
    (h : ∀ schema table, conduct.statements
      ((LogCommand.delete table).statement s.dialect schema s.journal.logName))
    (table : TableRef) : (s.forgetLogged table).Ensures conduct fun _ => True := by
  unfold forgetLogged
  split
  · exact ensures_discard (s.journal.keepsTo_trackDropped (h _ _))
  · exact ensures_pure trivial

/-- Forgetting a table deletes rows of a log, at most, and never breaks off. -/
theorem forgetLogged_ensures (table : TableRef) :
    (s.forgetLogged table).Ensures (rowDeletions s.dialect) fun _ => True :=
  s.ensures_forgetLogged (fun schema _ => IsRowDeletion.delete schema _ _) table

section

variable {events : List TableEvent}

/-- A rename is followed in the log and in the names of the indexes. -/
theorem followRename_ensures (old new : TableRef) :
    (s.followRename old new).Ensures (following s.journal events) fun _ => True := by
  unfold followRename
  split
  · refine ensures_bind (ensures_discard (s.journal.trackRenamed_keepsTo _ _ _)) fun _ _ => ?_
    refine ensures_bind (s.ensures_forgetLogged IsFollowing.delete old) fun _ _ => ?_
    exact ensures_discard (IndexRename.renameIndexes_ensures new old.table
      IsFollowing.listIndexes IsFollowing.renameIndex trivial)
  · exact ensures_pure trivial

/-- Every event of a script is followed by bookkeeping for it. -/
theorem follow_ensures (temporary : Bool) {event : TableEvent} (hevent : event ∈ events) :
    (s.follow temporary event).Ensures (following s.journal events) fun _ => True := by
  cases event with
  | created table =>
    show (if temporary then _ else _ : Dialogue Unit).Ensures _ _
    split
    · exact ensures_discard (s.journal.trackCreated_keepsTo hevent)
    · exact ensures_pure trivial
  | dropped table => exact s.ensures_forgetLogged IsFollowing.delete table
  | renamed old new => exact s.followRename_ensures old new

end

/-- The session after it has taken events in. -/
def afterEvents (events : List TableEvent) : Session :=
  { s with registry := events.foldl Registry.record s.registry }

/-- Recording events takes them into the registry, whatever the database answers,
    and follows these events. -/
theorem recordEvents_follows (temporary : Bool) {events more : List TableEvent} (s : Session)
    (hevents : ∀ event ∈ events, event ∈ more) :
    (recordEvents temporary s events).Ensures (following s.journal more)
      (· = s.afterEvents events) := by
  induction events generalizing s with
  | nil => exact ensures_pure rfl
  | cons event rest ih =>
    obtain ⟨hevent, hrest⟩ := List.forall_mem_cons.mp hevents
    -- the registry takes the event in before the logs follow it
    unfold recordEvents
    refine ensures_bind (follow_ensures _ temporary hevent) fun _ _ => ?_
    exact ih { s with registry := s.registry.record event } hrest

/-- The events are followed one by one, and the registry takes them all in. -/
theorem recordEvents_ensures (temporary : Bool) (events : List TableEvent) (s : Session) :
    (recordEvents temporary s events).Ensures (bookkeeping s.dialect)
      (· = s.afterEvents events) :=
  (recordEvents_follows temporary s fun _ => id).mono (fun _ => IsFollowing.isBookkeeping) id

/-- The events of a script as the session classifies it; none if it cannot. -/
def eventsOf (script : Text) : List TableEvent :=
  match Script.classify s.dialect s.defaultSchema script with
  | .ok c => c.events
  | .error _ => []

/-- The session after it has recorded a script. -/
def afterScript (script : Text) : Session :=
  match Script.classify s.dialect s.defaultSchema script with
  | .ok c => { s with registry := s.registry.beginStatement }.afterEvents c.events
  | .error _ => s

/-- What comes behind a script follows its events, and reports what it was classified as. -/
theorem postProcess_follows (script : Text) (temporary : Bool) :
    (s.postProcess script temporary).Ensures (following s.journal (s.eventsOf script))
      fun result =>
        result.1 = (Script.classify s.dialect s.defaultSchema script).mapError Error.reference
          ∧ result.2 = s.afterScript script := by
  unfold postProcess afterScript eventsOf
  cases h : Script.classify s.dialect s.defaultSchema script with
  | error e => exact ensures_pure ⟨rfl, rfl⟩
  | ok c =>
    refine ensures_bind (recordEvents_follows temporary
      { s with registry := s.registry.beginStatement } fun _ => id) fun after hafter => ?_
    exact ensures_pure ⟨rfl, hafter⟩

/-- What comes behind a script is bookkeeping. -/
theorem postProcess_ensures (script : Text) (temporary : Bool) :
    (s.postProcess script temporary).Ensures (bookkeeping s.dialect) fun result =>
      result.1 = (Script.classify s.dialect s.defaultSchema script).mapError Error.reference
        ∧ result.2 = s.afterScript script :=
  (s.postProcess_follows script temporary).mono (fun _ => IsFollowing.isBookkeeping) id

theorem recordStatement_ensures (script : Text) :
    (s.recordStatement script).Ensures (bookkeeping s.dialect) fun result =>
      result.1 = (Script.classify s.dialect s.defaultSchema script).mapError Error.reference
        ∧ result.2 = { { s with phase := .postProcessing }.afterScript script with phase := .idle } :=
  ensures_bind (postProcess_ensures { s with phase := .postProcessing } script true)
    fun result hresult => ensures_pure ⟨hresult.1, by rw [← hresult.2]⟩

end Session

end TableLedger
