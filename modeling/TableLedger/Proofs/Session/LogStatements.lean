/-
  TableLedger.Proofs.Session.LogStatements — what a session sends for its logs.

  Whatever a session is asked for, and whatever it is answered, each statement that
  it sends of its own accord has a reason in the request.  After a script it follows
  the events of the script; in a cleanup it drops tables that it has listed as
  created; in housekeeping it drops tables that a log has listed as expired, in the
  schema of that log.  Every other change is made to a log, by a statement that
  names the log of one schema and binds everything else.  Logs are created and
  filled in for loggable tables only, in the schemas of these.

  Main statements:
    • `onLog_command` — a command on the log of a schema is confined to it,
    • `serve_heeds` — every statement of a request has a reason,
    • `log_statements_confined` — for a session from its opening on.
-/

import Mathlib.Control.Monad.Basic
import TableLedger.Proofs.Journal.LogText
import TableLedger.Proofs.Session.LogDatabase

namespace TableLedger

open Catalog (localName)
open Dialogue

/-! ## §1. Confinement -/

namespace Journal

/-- A statement carries a command out on the log of one schema and on nothing else:
    it names that log, binds every value, and binds no schema but this one.  If it
    creates the log or adds a row, it does so for a loggable table of the schema
    that the events created, and the row is that table's. -/
structure OnLog (j : Journal) (events : List TableEvent) (schema : Text) (command : LogCommand)
    (sent : Statement) : Prop where
  target : sent
    = (command.sql schema).statement j.dialect (localName j.dialect schema j.logName)
  text : ∀ other, command.Alike other →
    (other.statement j.dialect schema j.logName).sql = sent.sql
  numbered : sent.Numbered j.dialect
  schemas : ∀ bound ∈ (command.sql schema).schemas, bound = schema
  created : command = .create →
    ∃ r, TableEvent.created r ∈ events ∧ r.schema = schema ∧ j.isLoggable r = true
  inserted : ∀ e, command = .insert e →
    ∃ r, TableEvent.created r ∈ events ∧ r.schema = schema ∧ j.isLoggable r = true
      ∧ e.IsFor j r true

variable {j : Journal} {events : List TableEvent} {schema : Text} {command : LogCommand}

/-- The statements of a journal about the log of a schema are confined to it, as long
    as logs are created and filled in for loggable tables. -/
theorem onLog_command
    (hcreated : command = .create →
      ∃ r, TableEvent.created r ∈ events ∧ r.schema = schema ∧ j.isLoggable r = true)
    (hinserted : ∀ e, command = .insert e →
      ∃ r, TableEvent.created r ∈ events ∧ r.schema = schema ∧ j.isLoggable r = true
        ∧ e.IsFor j r true) :
    j.OnLog events schema command (command.statement j.dialect schema j.logName) where
  target := command.statement_eq j.dialect schema j.logName
  text other halike := (LogCommand.sql_eq_of_alike halike j.dialect schema j.logName).symm
  numbered := by
    rw [LogCommand.statement_eq]
    exact Statement.numbered_ofFragments _ _
  schemas := by
    intro bound hbound
    cases command with
    | create | deleteNamed | listTables | listExpired =>
      simp [LogCommand.sql, LogSql.schemas] at hbound
    | insert e =>
      obtain ⟨r, -, hschema, -, hentry⟩ := hinserted e rfl
      rw [List.mem_singleton.mp hbound, hentry.schema, hschema]
    | delete table | rename old new => simpa [LogCommand.sql, LogSql.schemas] using hbound
  created := hcreated
  inserted := hinserted

/-- A statement of housekeeping and its reason, after what was said. -/
inductive Housekeeps (j : Journal) (said : List Exchange) (sent : Statement) : Prop where
  | schemasWithLog (hsent : sent = Catalog.schemasWithLog j.dialect j.logName)
  | onLog {schema : Text} {command : LogCommand} (h : j.OnLog [] schema command sent)
  /-- The answer to a query for what has expired in the log of the schema named the
      table. -/
  | drop {schema name : Text} {cutoff : Timestamp} {result : QueryResult}
      (hlisted : .executed ((LogCommand.listExpired cutoff).statement j.dialect schema j.logName)
        (.ok result) ∈ said)
      (hname : name ∈ result.columnTexts Catalog.tableNameColumn)
      (hsent : sent = Catalog.dropIfExists j.dialect (.inSchema schema name))

/-- What housekeeping may do has a reason. -/
theorem IsHousekeeping.housekeeps {said : List Exchange} {sent : Statement}
    (h : IsHousekeeping j said sent) : j.Housekeeps said sent := by
  cases h with
  | schemasWithLog => exact .schemasWithLog rfl
  | listTables | listExpired | deleteNamed => exact .onLog (onLog_command nofun nofun)
  | drop hlisted hname => exact .drop hlisted hname rfl

/-- The rule of housekeeping, with the reasons. -/
def reasons (j : Journal) : Rule := fun said => ⟨j.Housekeeps said, True⟩

/-- Housekeeping has a reason for every statement. -/
theorem housekeeping_heeds (j : Journal) (said : List Exchange) :
    j.housekeeping.run.Heeds j.reasons (fun _ _ => True) said :=
  Heeds.mono (j.housekeeping_abides said) (fun _ _ => IsHousekeeping.housekeeps)
    (fun _ => False.elim) fun _ _ _ => trivial

end Journal

/-! ## §2. Requests -/

/-- The script of a request. -/
def Request.script? : Request → Option Text
  | .query sql _ => some sql
  | .record script => some script
  | .cleanup | .cleanLogs | .reset => none

namespace Session

/-- A statement that a session sends while it serves a request, and its reason, after
    what was said since the request came. -/
inductive Sends (s : Session) (said : List Exchange) (sent : Statement) : Request → Prop where
  | script {options : QueryOptions} (hfirst : said = []) (hplain : sent.params = []) :
      Sends s said sent (.query sent.sql options)
  | onLog {request : Request} {script schema : Text} {command : LogCommand}
      (hscript : request.script? = some script)
      (h : s.journal.OnLog (s.eventsOf script) schema command sent) : Sends s said sent request
  | listIndexes {request : Request} {script : Text} {r : TableRef}
      (hscript : request.script? = some script) (hsent : sent = Catalog.listIndexes s.dialect r) :
      Sends s said sent request
  | renameIndex {request : Request} {script index newIndex : Text} {r : TableRef}
      (hscript : request.script? = some script)
      (hsent : sent = Catalog.renameIndex s.dialect r index newIndex) : Sends s said sent request
  | drop {r : TableRef} (htracked : r ∈ s.registry.created)
      (hsent : sent = Catalog.dropIfExists s.dialect r) : Sends s said sent .cleanup
  | forget {schema : Text} {command : LogCommand} (h : s.journal.OnLog [] schema command sent) :
      Sends s said sent .cleanup
  | housekeeping (h : s.journal.Housekeeps said sent) : Sends s said sent .cleanLogs

variable (s : Session)

/-- What follows an event of the script has a reason. -/
theorem sends_of_isFollowing {s : Session} {said : List Exchange} {sent : Statement}
    {request : Request} {script : Text} (hscript : request.script? = some script)
    (h : IsFollowing s.journal (s.eventsOf script) sent) : s.Sends said sent request := by
  cases h with
  | create hcreated hloggable =>
    exact .onLog hscript (Journal.onLog_command (fun _ => ⟨_, hcreated, rfl, hloggable⟩) nofun)
  | insert hcreated hloggable hentry =>
    refine .onLog hscript (Journal.onLog_command nofun ?_)
    rintro _ ⟨⟩
    exact ⟨_, hcreated, rfl, hloggable, hentry⟩
  | delete | rename => exact .onLog hscript (Journal.onLog_command nofun nofun)
  | listIndexes r => exact .listIndexes hscript rfl
  | renameIndex r index newIndex => exact .renameIndex hscript rfl

/-- The rule that a session heeds while it serves a request. -/
def rule (s : Session) (request : Request) : Rule := fun said => ⟨(s.Sends said · request), True⟩

/-- What comes behind a script has a reason in the script. -/
theorem postProcess_heeds {request : Request} {script : Text}
    (hscript : request.script? = some script) (temporary : Bool) (said : List Exchange) :
    ({ s with phase := .postProcessing }.postProcess script temporary).Heeds (s.rule request)
      (fun _ _ => True) said := by
  refine (postProcess_follows { s with phase := .postProcessing } script temporary).heeds
    (fun said sent hsent => ?_) (fun _ _ => trivial) said
  -- the phase has no part in the journal or in the events
  have hfollowing : IsFollowing s.journal (s.eventsOf script) sent := hsent
  exact sends_of_isFollowing hscript hfollowing

/-- A query sends its script and what follows from it. -/
theorem query_heeds (sql : Text) (options : QueryOptions) :
    (s.query sql options).Heeds (s.rule (.query sql options)) (fun _ _ => True) [] := by
  refine heeds_bind (heeds_executing (.script rfl rfl)) fun answer later _ _ => ?_
  cases answer with
  | error e => exact heeds_pure trivial
  | ok rows =>
    cases hunrecorded : options.unrecorded with
    | true =>
      simp only [if_true]
      exact heeds_pure trivial
    | false =>
      simp only [Bool.false_eq_true, if_false]
      exact heeds_bind (s.postProcess_heeds rfl options.temporary later) fun _ _ _ _ =>
        heeds_pure trivial

/-- A script that was executed elsewhere is not sent, but followed. -/
theorem recordStatement_heeds (script : Text) :
    (s.recordStatement script).Heeds (s.rule (.record script)) (fun _ _ => True) [] :=
  heeds_bind (s.postProcess_heeds rfl true []) fun _ _ _ _ => heeds_pure trivial

/-- The reason for a statement of a cleanup does not lie in what was said. -/
theorem cleanup_heeds : s.cleanup.Heeds (s.rule .cleanup) (fun _ _ => True) [] := by
  have hensures : s.cleanup.Ensures ⟨fun sent => ∀ said, s.Sends said sent .cleanup, True⟩ _ :=
    ensures_cleanup (fun t ht _ => .drop ht rfl) fun schema table _ =>
      .forget (Journal.onLog_command nofun nofun)
  exact hensures.heeds (fun said _ hsent => hsent said) (fun _ _ => trivial) []

/-- To clean the logs is housekeeping. -/
theorem cleanLogs_heeds : s.cleanLogs.Heeds (s.rule .cleanLogs) (fun _ _ => True) [] := by
  have hrule : s.journal.housekeeping.run.Heeds (s.rule .cleanLogs) (fun _ _ => True) [] :=
    (s.journal.housekeeping_heeds []).mono (fun _ _ => .housekeeping) (fun _ => id) fun _ _ => id
  refine heeds_bind hrule fun result _ _ _ => ?_
  cases result with
  | ok report => exact heeds_pure trivial
  | error e => exact heeds_pure trivial

/-- Every statement of a request has a reason, whatever the answers are. -/
theorem serve_heeds (request : Request) :
    (s.serve request).Heeds (s.rule request) (fun _ _ => True) [] := by
  cases request with
  | query sql options =>
    exact heeds_bind (s.query_heeds sql options) fun _ _ _ _ => heeds_pure trivial
  | record script =>
    exact heeds_bind (s.recordStatement_heeds script) fun _ _ _ _ => heeds_pure trivial
  | cleanup => exact heeds_bind s.cleanup_heeds fun _ _ _ _ => heeds_pure trivial
  | cleanLogs =>
    exact heeds_bind (heeds_discard s.cleanLogs_heeds) fun _ _ _ _ => heeds_pure trivial
  | reset => exact heeds_pure trivial

/-- Opening a session housekeeps its logs, at most. -/
theorem openWith_heeds (database : Dialect) (c : SessionContext) :
    (openWith database c).Heeds (journalOf c).reasons (fun _ _ => True) [] := by
  unfold openWith
  split
  · exact heeds_pure trivial
  split
  · exact heeds_pure trivial
  have hchoose : (chooseSchema c).Heeds (journalOf c).reasons (fun _ _ => True) [] := by
    unfold chooseSchema
    split
    · exact heeds_pure trivial
    · exact fun _ => trivial
  -- only housekeeping sends statements about the logs; the choice of the schema asks for the
  -- default one
  refine heeds_bind hchoose fun chosen asked _ _ => ?_
  cases chosen with
  | error e => exact heeds_pure trivial
  | ok schema =>
    simp only
    split
    · exact heeds_bind (heeds_discard ((journalOf c).housekeeping_heeds asked)) fun _ _ _ _ =>
        heeds_pure trivial
    · exact heeds_pure trivial

end Session

/-! ## §3. Sessions from their opening on -/

/-- **Confinement to the logs.**  A session was opened, and has served any requests,
    whatever scripts they were about and whatever it was answered.  Its journal is
    the one that it was opened with.  Every statement that the opening sent, and
    every statement of a request that comes next, be it seen through or break off,
    has a reason in what was said before it. -/
theorem History.log_statements_confined {σ : Type} {db : Database σ} {database : Dialect}
    {c : SessionContext} {s₀ s : Session} {initial state₀ state : σ} {turns : List (Turn σ)}
    (hopen : (Session.openWith database c).run db initial = (.ok (.ok s₀), state₀))
    (history : History db s₀ state₀ turns s state) :
    s.journal = Session.journalOf c
      ∧ (∀ said sent answer rest,
        (Session.openWith database c).transcript db initial = said ++ .executed sent answer :: rest →
          (Session.journalOf c).Housekeeps said sent)
      ∧ ∀ request found said sent answer rest,
        (s.serve request).transcript db found = said ++ .executed sent answer :: rest →
          s.Sends said sent request := by
  refine ⟨?_, fun said sent answer rest hsent => ?_,
    fun request found said sent answer rest hsent => ?_⟩
  · obtain ⟨schema, rfl⟩ := Session.openWith_run hopen
    exact history.carriesOn.journal_eq
  · exact (Session.openWith_heeds database c).statements_of_transcript_eq hsent
  · exact (s.serve_heeds request).statements_of_transcript_eq hsent

/-! ## §4. A table with a hostile name -/

namespace Session

/-- What is said when the events of an executed script are recorded is said when the
    script is served. -/
theorem mem_transcript_serve_query {σ : Type} {db : Database σ} {s : Session} {sql : Text}
    {options : QueryOptions} {rows : QueryResult} {c : Classification} {state executed : σ}
    {e : Exchange} (hexecute : db.execute (.plain sql) state = (.ok rows, executed))
    (hrecorded : options.unrecorded = false)
    (hclassify : Script.classify s.dialect s.defaultSchema sql = .ok c)
    (he : e ∈ (recordEvents options.temporary s.begun c.events).transcript db executed) :
    e ∈ (s.serve (.query sql options)).transcript db state := by
  have hpost : e ∈ (postProcess { s with phase := .postProcessing } sql
      options.temporary).transcript db executed := by
    unfold postProcess
    simp only [dialect] at hclassify ⊢
    simp only [hclassify]
    exact mem_transcript_bind he
  have hquery : e ∈ (s.query sql options).transcript db state := by
    unfold query
    rw [transcript_bind_of_ok (run_executing db (.plain sql) state)]
    refine List.mem_append_right _ ?_
    simp only [hexecute, hrecorded, Bool.false_eq_true, if_false]
    exact mem_transcript_bind hpost
  exact mem_transcript_bind hquery

end Session

namespace HostileName

open LogDatabase (session journal noLogs)

def script : Text := "CREATE TABLE \"a'; --\" (i int)".toList

def t : TableRef := .inSchema "public".toList "a'; --".toList

/-- The row that is written for the table. -/
def insertion : Statement :=
  (LogCommand.insert ⟨"alice".toList, t.schema, t.table, ⟨0, 0⟩, some ⟨7, 0⟩⟩).statement .pg
    t.schema journal.logName

theorem classify_script :
    Script.classify session.dialect session.defaultSchema script = .ok ⟨[.created t]⟩ := by
  decide +kernel

theorem execute_script :
    LogDatabase.database.execute (.plain script) noLogs = (.ok ⟨[]⟩, noLogs) := by
  have haim : LogDatabase.aim? (.plain script) = none := by decide +kernel
  exact LogDatabase.execute_of_aim?_eq_none haim noLogs

/-- A row for the table is sent. -/
theorem exists_insertion :
    ∃ said answer rest,
      (session.serve (.query script .standard)).transcript LogDatabase.database noLogs
        = said ++ .executed insertion answer :: rest := by
  have hsent : ((Session.recordEvents true session.begun [.created t]).transcript
      LogDatabase.database noLogs).any (Exchange.executes insertion) = true := by decide +kernel
  obtain ⟨e, he, hinsertion⟩ := List.any_eq_true.mp hsent
  obtain ⟨answer, rfl⟩ := Exchange.eq_executed_of_executes hinsertion
  have hserved : .executed insertion answer
      ∈ (session.serve (.query script .standard)).transcript LogDatabase.database noLogs :=
    Session.mem_transcript_serve_query execute_script rfl classify_script he
  obtain ⟨said, rest, hcut⟩ := List.append_of_mem hserved
  exact ⟨said, answer, rest, hcut⟩

end HostileName

open HostileName in
/-- The row of a table with a hostile name is written into the log of its schema, and
    the name is bound. -/
theorem History.log_statements_of_hostile_name :
    (Session.openWith .pg (PlainDatabase.context "public".toList)).run LogDatabase.database
        LogDatabase.noLogs = (.ok (.ok LogDatabase.session), LogDatabase.noLogs)
      ∧ History LogDatabase.database LogDatabase.session LogDatabase.noLogs [] LogDatabase.session
        LogDatabase.noLogs
      ∧ insertion.params.take 3 = [.text "alice".toList, .text t.schema, .text t.table]
      ∧ ∃ said answer rest,
        (LogDatabase.session.serve (.query script .standard)).transcript LogDatabase.database
            LogDatabase.noLogs = said ++ .executed insertion answer :: rest
          ∧ LogDatabase.session.Sends said insertion (.query script .standard) := by
  have hopen : (Session.openWith .pg (PlainDatabase.context "public".toList)).run
      LogDatabase.database LogDatabase.noLogs
        = (.ok (.ok LogDatabase.session), LogDatabase.noLogs) := rfl
  have history : History LogDatabase.database LogDatabase.session LogDatabase.noLogs []
      LogDatabase.session LogDatabase.noLogs := .start
  obtain ⟨said, answer, rest, hsent⟩ := exists_insertion
  obtain ⟨-, -, hnext⟩ := History.log_statements_confined hopen history
  exact ⟨hopen, history, rfl, said, answer, rest, hsent, hnext _ _ _ _ _ _ hsent⟩

end TableLedger
