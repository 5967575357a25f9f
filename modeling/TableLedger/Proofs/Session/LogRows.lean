/-
  TableLedger.Proofs.Session.LogRows — one row per table.

  A journal deletes the rows of a table before it inserts one for it, and those
  of a new name before it renames a row to it.  Each of these statements may fail,
  and what comes after it is then left out; so a log never holds two rows for one
  table, at any moment of anything that a session is asked for.  The rows of the
  log of a schema all name that schema, since no other row is ever inserted there.

  Main statements:
    • `OneRowPerTable.apply_insert`, `OneRowPerTable.apply_rename` — the two
      statements that could add to the rows of a table, behind a deletion,
    • `Session.throughout_serve` — no request breaks the order of the logs,
    • `History.one_log_row_per_table` — so they are in order in every history.
-/

import TableLedger.Proofs.Journal.LogSql
import TableLedger.Proofs.Session.History

namespace TableLedger

open Catalog (localName)
open Dialogue

/-! ## §1. The rows of a log -/

/-- The rows are all for one schema, and no two of them are for the same table. -/
structure OneRowPerTable (schema : Text) (rows : List LogEntry) : Prop where
  schema_eq : ∀ e ∈ rows, e.schema = schema
  pairwise_ne : rows.Pairwise fun e f => e.table ≠ f.table

namespace OneRowPerTable

variable {schema table : Text} {rows : List LogEntry}

theorem nil (schema : Text) : OneRowPerTable schema [] := ⟨nofun, List.Pairwise.nil⟩

/-- Where rows are taken out, no table gets a second one. -/
theorem sublist {others : List LogEntry} (h : OneRowPerTable schema rows)
    (hsub : others.Sublist rows) : OneRowPerTable schema others :=
  ⟨fun e he => h.schema_eq e (hsub.subset he), h.pairwise_ne.sublist hsub⟩

/-- Deleting the rows of a table, in the log of its schema, leaves none of them. -/
theorem table_ne_of_mem_apply_delete (h : OneRowPerTable schema rows) {e : LogEntry}
    (he : e ∈ ((LogCommand.delete table).sql schema).apply rows) : e.table ≠ table := by
  obtain ⟨hmem, hkept⟩ := List.mem_filter.mp he
  rintro rfl
  simp [LogCell.isIn, LogColumn.read, h.schema_eq e hmem] at hkept

/-- A row may be inserted for a table that has none. -/
theorem apply_insert (h : OneRowPerTable schema rows) {entry : LogEntry}
    (hschema : entry.schema = schema) (hfresh : ∀ e ∈ rows, e.table ≠ entry.table) :
    OneRowPerTable schema ((LogSql.insert entry).apply rows) := by
  refine ⟨fun e he => ?_, ?_⟩
  · obtain hold | rfl : e ∈ rows ∨ e = entry := by simpa [LogSql.apply] using he
    · exact h.schema_eq e hold
    · exact hschema
  · refine List.pairwise_append.mpr ⟨h.pairwise_ne, List.pairwise_singleton _ _, ?_⟩
    intro e he f hf
    rw [List.mem_singleton.mp hf]
    exact hfresh e he

/-- A row may be renamed to a table that has none. -/
theorem apply_rename (h : OneRowPerTable schema rows) (old : Text)
    (hfresh : ∀ e ∈ rows, e.table ≠ table) :
    OneRowPerTable schema (((LogCommand.rename old table).sql schema).apply rows) := by
  have hselected : ∀ e ∈ rows,
      ([⟨.schema, schema⟩, ⟨.table, old⟩] : List LogCell).all (·.isIn e) = (e.table == old) := by
    intro e he
    simp [LogCell.isIn, LogColumn.read, h.schema_eq e he]
  refine ⟨fun e he => ?_, List.pairwise_map.mpr (h.pairwise_ne.imp_of_mem ?_)⟩
  · obtain ⟨row, hrow, rfl⟩ := List.mem_map.mp he
    split
    · exact h.schema_eq row hrow
    · exact h.schema_eq row hrow
  · -- two rows of different tables: at most one of them gets the new name
    intro e f he hf hne
    rw [hselected e he, hselected f hf]
    by_cases hmoved : e.table = old
    · have hstays : f.table ≠ old := fun hother => hne (hmoved.trans hother.symm)
      simpa [hmoved, hstays, LogColumn.write] using (hfresh f hf).symm
    · by_cases hother : f.table = old
      · simpa [hmoved, hother, LogColumn.write] using hfresh e he
      · simpa [hmoved, hother] using hne

end OneRowPerTable

/-- A pruning command only takes rows away. -/
theorem LogCommand.apply_sublist {command : LogCommand} (hprunes : command.Prunes)
    (schema : Text) (rows : List LogEntry) :
    ((command.sql schema).apply rows).Sublist rows := by
  cases command with
  | insert e => exact hprunes.elim
  | rename old new => exact hprunes.elim
  | create => exact List.nil_sublist rows
  | delete table | deleteNamed table => exact List.filter_sublist
  | listTables | listExpired cutoff => exact List.Sublist.refl rows

/-! ## §2. Journals -/

namespace Journal

/-- The rows of the log of a schema, by the name that the journal calls it. -/
def logRows (j : Journal) {σ : Type} (rows : σ → Text → List LogEntry) (state : σ)
    (schema : Text) : List LogEntry :=
  rows state (localName j.dialect schema j.logName)

/-- Every log of the journal has one row per table. -/
def InOrder (j : Journal) {σ : Type} (rows : σ → Text → List LogEntry) (state : σ) : Prop :=
  ∀ schema, OneRowPerTable schema (j.logRows rows state schema)

section

variable {α β σ : Type} {db : Database σ} {holds : σ → Prop} {state : σ}

/-- What comes after a failure of the journal is left out. -/
theorem throughout_bind {x : JournalDialogue α} {f : α → JournalDialogue β}
    (hx : x.run.Throughout db holds state)
    (hf : ∀ a after, x.run.run db state = (.ok (.ok a), after) → holds after →
      (f a).run.Throughout db holds after) : (x >>= f).run.Throughout db holds state := by
  refine Dialogue.throughout_bind hx fun result after hrun hafter => ?_
  cases result with
  | ok a => exact hf a after hrun hafter
  | error e =>
    -- nothing more is sent
    exact throughout_pure hafter

theorem throughout_pure {a : α} (h : holds state) :
    (pure a : JournalDialogue α).run.Throughout db holds state := h

/-- A sequence that ends in a value went through a value of its first part. -/
theorem run_bind_eq_ok {x : JournalDialogue α} {f : α → JournalDialogue β} {final : σ} {b : β}
    (h : (x >>= f).run.run db state = (.ok (.ok b), final)) :
    ∃ a after, x.run.run db state = (.ok (.ok a), after)
      ∧ (f a).run.run db after = (.ok (.ok b), final) := by
  obtain ⟨result, after, hx, hf⟩ := Dialogue.run_bind_eq_ok h
  cases result with
  | ok a => exact ⟨a, after, hx, hf⟩
  | error e =>
    obtain ⟨hfailed, -⟩ := Prod.mk.inj hf
    injection hfailed with hfailed
    injection hfailed

end

variable {σ : Type} {db : Database σ} {rows : σ → Text → List LogEntry} {j : Journal}
  {state : σ}

/-- Order is a matter of the rows only. -/
theorem InOrder.of_eq {after : σ} (h : j.InOrder rows state)
    (heq : ∀ schema, j.logRows rows after schema = j.logRows rows state schema) :
    j.InOrder rows after := by
  intro schema
  rw [heq schema]
  exact h schema

variable (hlogs : KeepsLogs db j.dialect j.logName rows)

include hlogs

/-- A command keeps the logs in order if it does so to the log that it is about. -/
theorem inOrder_execute (h : j.InOrder rows state) {schema : Text} {command : LogCommand}
    (happly : OneRowPerTable schema
      ((command.sql schema).apply (j.logRows rows state schema))) :
    j.InOrder rows (db.execute (command.statement j.dialect schema j.logName) state).2 := by
  cases hrun : db.execute (command.statement j.dialect schema j.logName) state with
  | mk answer after =>
    intro other
    cases answer with
    | error e =>
      rw [logRows, hlogs.rows_of_refused hrun]
      exact h other
    | ok result =>
      rw [logRows, hlogs.rows_of_answered hrun]
      split
      · next hsame =>
        subst hsame
        exact happly
      · -- the log of another schema
        exact h other

/-- Taking rows away keeps the logs in order. -/
theorem kept_inOrder : Kept db (IsPruning j.dialect j.logName) (j.InOrder rows) where
  execute s state hs h := by
    cases hs with
    | command schema command hprunes =>
      exact inOrder_execute hlogs h ((h schema).sublist (LogCommand.apply_sublist hprunes _ _))
    | drop r =>
      -- what is dropped may be a log, and then its rows are gone
      intro schema
      obtain hsame | hgone := hlogs.dropIfExists r state (localName j.dialect schema j.logName)
      · rw [logRows, hsame]
        exact h schema
      · rw [logRows, hgone]
        exact OneRowPerTable.nil schema
    | schemasWithLog => exact h.of_eq fun schema => hlogs.schemasWithLog state _
    | listIndexes r => exact h.of_eq fun schema => hlogs.listIndexes r state _
    | renameIndex r index newIndex =>
      exact h.of_eq fun schema => hlogs.renameIndex r index newIndex state _
  lookUp r state h := h.of_eq fun schema => hlogs.lookUp r state _
  askSchema state h := h.of_eq fun schema => hlogs.askSchema state _
  readClock state h := h.of_eq fun schema => hlogs.readClock state _

/-- Pruning keeps the logs in order at every moment. -/
theorem throughout_of_prunings {α : Type} {post : α → Prop} {x : Dialogue α}
    (hx : x.Ensures (prunings j.dialect j.logName) post) (h : j.InOrder rows state) :
    x.Throughout db (j.InOrder rows) state :=
  hx.throughout (kept_inOrder hlogs) h

/-- Performing a command keeps the logs in order if it does so to its own log. -/
theorem throughout_perform (h : j.InOrder rows state) {schema : Text} {command : LogCommand}
    (happly : OneRowPerTable schema
      ((command.sql schema).apply (j.logRows rows state schema))) :
    (discard (j.perform schema command)).run.Throughout db (j.InOrder rows) state := by
  have hafter := inOrder_execute hlogs h happly
  refine throughout_bind (throughout_bind ?_ fun answered _ _ hlast => ?_) fun _ _ _ hlast =>
    throughout_pure hlast
  · exact Dialogue.throughout_bind (throughout_executing h hafter) fun _ _ _ hlast =>
      throughout_pure hlast
  · cases answered with
    | ok result => exact throughout_pure hlast
    | error e => exact hlast

omit hlogs in
/-- A command that was performed was answered. -/
theorem execute_of_run_perform {schema : Text} {command : LogCommand} {after : σ}
    (h : (discard (j.perform schema command)).run.run db state = (.ok (.ok ()), after)) :
    ∃ result, db.execute (command.statement j.dialect schema j.logName) state
      = (.ok result, after) := by
  obtain ⟨result, performed, hperform, hlast⟩ := run_bind_eq_ok h
  obtain ⟨answered, executed, hexecute, hanswer⟩ := run_bind_eq_ok hperform
  obtain ⟨-, rfl⟩ := Prod.mk.inj hlast
  -- a refusal would have been a failure of the journal
  cases answered with
  | error e =>
    obtain ⟨hfailed, -⟩ := Prod.mk.inj hanswer
    injection hfailed with hfailed
    injection hfailed
  | ok found =>
    obtain ⟨-, rfl⟩ := Prod.mk.inj hanswer
    obtain ⟨hfound, hstate⟩ := Prod.mk.inj hexecute
    injection hfound with hfound
    injection hfound with hfound
    exact ⟨found, Prod.ext hfound hstate⟩

/-- A deletion that was performed leaves no row of the table. -/
theorem table_ne_of_run_delete (h : j.InOrder rows state) {schema table : Text} {after : σ}
    (hrun : (discard (j.perform schema (.delete table))).run.run db state
      = (.ok (.ok ()), after)) :
    ∀ e ∈ j.logRows rows after schema, e.table ≠ table := by
  obtain ⟨result, hexecute⟩ := execute_of_run_perform hrun
  rw [logRows, hlogs.rows_of_answered hexecute, if_pos rfl]
  exact fun e he => (h schema).table_ne_of_mem_apply_delete he

/-- To delete the rows of a table keeps the logs in order throughout. -/
theorem throughout_delete (h : j.InOrder rows state) (schema table : Text) :
    (discard (j.perform schema (.delete table))).run.Throughout db (j.InOrder rows) state :=
  throughout_of_prunings hlogs
    (keepsTo_discard (j.keepsTo_pruning (prunings_allowsPruning _ _) schema trivial)) h

/-- Inserting an entry keeps the logs in order at every moment. -/
theorem throughout_insert (h : j.InOrder rows state) (entry : LogEntry) :
    (j.insert entry).run.Throughout db (j.InOrder rows) state := by
  have hensure := j.ensureLog_keepsTo_pruning (prunings_allowsPruning _ _) entry.schema
  refine throughout_bind (throughout_of_prunings hlogs (keepsTo_discard hensure) h)
    fun _ ready _ hready => ?_
  refine throughout_bind (throughout_delete hlogs hready _ _) fun _ cleared hdelete hcleared => ?_
  -- the insertion is only reached if no row of the table is left
  have hfresh := table_ne_of_run_delete hlogs hready hdelete
  exact throughout_perform hlogs hcleared ((hcleared entry.schema).apply_insert rfl hfresh)

/-- Following a rename keeps the logs in order at every moment. -/
theorem throughout_trackRenamed (h : j.InOrder rows state) (schema old new : Text) :
    (j.trackRenamed schema old new).run.Throughout db (j.InOrder rows) state := by
  refine throughout_bind (throughout_of_prunings hlogs (j.keepsTo_logExists schema) h)
    fun found asked _ hasked => ?_
  cases found with
  | false => exact throughout_pure hasked
  | true =>
    refine throughout_bind (throughout_delete hlogs hasked schema new)
      fun _ cleared hdelete hcleared => ?_
    -- no row has the new name when the old one is looked for
    have hfresh := table_ne_of_run_delete hlogs hasked hdelete
    have hrename :=
      throughout_perform hlogs hcleared ((hcleared schema).apply_rename old hfresh)
    exact throughout_bind hrename fun _ _ _ hrenamed => throughout_pure hrenamed

theorem throughout_trackCreated (h : j.InOrder rows state) (r : TableRef) (temporary : Bool) :
    (j.trackCreated r temporary).run.Throughout db (j.InOrder rows) state := by
  unfold trackCreated
  split
  · exact throughout_pure h
  · refine throughout_bind (throughout_of_prunings hlogs
      (keepsTo_lift (j.entryNow_ensures trivial r temporary)) h) fun entry made _ hmade => ?_
    exact throughout_bind (throughout_insert hlogs hmade entry) fun _ _ _ hlast =>
      throughout_pure hlast

end Journal

/-! ## §3. Sessions -/

namespace Session

variable {σ : Type} {db : Database σ} {rows : σ → Text → List LogEntry} {s : Session} {state : σ}
  (hlogs : KeepsLogs db s.dialect s.journal.logName rows)

include hlogs

theorem throughout_of_prunings {α : Type} {post : α → Prop} {x : Dialogue α}
    (hx : x.Ensures (prunings s.dialect s.journal.logName) post)
    (h : s.journal.InOrder rows state) : x.Throughout db (s.journal.InOrder rows) state :=
  Journal.throughout_of_prunings (j := s.journal) hlogs hx h

/-- To forget the rows of a table takes rows out. -/
theorem throughout_forgetLogged (h : s.journal.InOrder rows state) (table : TableRef) :
    (s.forgetLogged table).Throughout db (s.journal.InOrder rows) state :=
  throughout_of_prunings hlogs
    (forgetLogged_ensures_pruning (prunings_allowsPruning _ _) table) h

/-- A rename takes the row of the new name out before another one gets that name. -/
theorem throughout_followRename (h : s.journal.InOrder rows state) (old new : TableRef) :
    (s.followRename old new).Throughout db (s.journal.InOrder rows) state := by
  unfold followRename
  split
  · have htrack := throughout_discard
      (Journal.throughout_trackRenamed hlogs h new.schema old.table new.table)
    refine throughout_bind htrack fun _ tracked _ htracked => ?_
    refine throughout_bind (throughout_forgetLogged hlogs htracked old)
      fun _ forgotten _ hforgotten => ?_
    exact throughout_of_prunings hlogs (ensures_discard (IndexRename.renameIndexes_ensures new
      old.table IsPruning.listIndexes IsPruning.renameIndex trivial)) hforgotten
  · exact throughout_pure h

/-- Each event keeps the logs in order. -/
theorem throughout_follow (h : s.journal.InOrder rows state) (temporary : Bool)
    (event : TableEvent) :
    (s.follow temporary event).Throughout db (s.journal.InOrder rows) state := by
  cases event with
  | created table =>
    show (if temporary then _ else _ : Dialogue Unit).Throughout _ _ _
    split
    · exact throughout_discard (Journal.throughout_trackCreated hlogs h table true)
    · exact throughout_pure h
  | dropped table => exact throughout_forgetLogged hlogs h table
  | renamed old new => exact throughout_followRename hlogs h old new

omit hlogs in
/-- Recording events keeps the logs in order, whatever the events are. -/
theorem throughout_recordEvents (temporary : Bool) (events : List TableEvent) (s : Session)
    (hlogs : KeepsLogs db s.dialect s.journal.logName rows) {state : σ}
    (h : s.journal.InOrder rows state) :
    (recordEvents temporary s events).Throughout db (s.journal.InOrder rows) state := by
  induction events generalizing s state with
  | nil => exact throughout_pure h
  | cons event rest ih =>
    -- the registry does not matter to the logs, so the session may go on with any
    unfold recordEvents
    refine throughout_bind (throughout_follow hlogs h temporary event)
      fun _ followed _ hfollowed => ?_
    exact ih { s with registry := s.registry.record event } hlogs hfollowed

theorem throughout_postProcess (h : s.journal.InOrder rows state) (script : Text)
    (temporary : Bool) :
    (s.postProcess script temporary).Throughout db (s.journal.InOrder rows) state := by
  unfold postProcess
  split
  · exact throughout_pure h
  · next classification _ =>
    have hevents := throughout_recordEvents temporary classification.events
      { s with registry := s.registry.beginStatement } hlogs h
    exact throughout_bind hevents fun _ _ _ hlast => throughout_pure hlast

theorem throughout_recordStatement (h : s.journal.InOrder rows state) (script : Text) :
    (s.recordStatement script).Throughout db (s.journal.InOrder rows) state := by
  have hrecorded := throughout_postProcess (s := { s with phase := .postProcessing }) hlogs h
    script true
  exact throughout_bind hrecorded fun _ _ _ hlast => throughout_pure hlast

/-- A query does, if the script itself leaves the logs in order. -/
theorem throughout_query (h : s.journal.InOrder rows state) {sql : Text}
    (hscript : s.journal.InOrder rows (db.execute (.plain sql) state).2) (options : QueryOptions) :
    (s.query sql options).Throughout db (s.journal.InOrder rows) state := by
  unfold query
  -- what the script does is the caller's affair, here and only here
  refine throughout_bind (throughout_executing h hscript) fun answer executed _ hexecuted => ?_
  cases answer with
  | error e => exact throughout_pure hexecuted
  | ok result =>
    simp only
    split
    · exact throughout_pure hexecuted
    · have hrecorded := throughout_postProcess (s := { s with phase := .postProcessing }) hlogs
        hexecuted sql options.temporary
      exact throughout_bind hrecorded fun _ _ _ hlast => throughout_pure hlast

/-- No request breaks the order of the logs, at any moment, as long as the script
    that it executes does not. -/
theorem throughout_serve (h : s.journal.InOrder rows state) {request : Request}
    (hscript : ∀ sql options, request = .query sql options →
      s.journal.InOrder rows (db.execute (.plain sql) state).2) :
    (s.serve request).Throughout db (s.journal.InOrder rows) state := by
  cases request with
  | query sql options =>
    have hquery := throughout_query hlogs h (hscript sql options rfl) options
    exact throughout_bind hquery fun _ _ _ hlast => throughout_pure hlast
  | record script =>
    have hrecord := throughout_recordStatement hlogs h script
    exact throughout_bind hrecord fun _ _ _ hlast => throughout_pure hlast
  | cleanup =>
    have hcleanup := throughout_of_prunings hlogs
      (cleanup_ensures (prunings_allowsPruning s.dialect s.journal.logName)) h
    exact throughout_bind hcleanup fun _ _ _ hlast => throughout_pure hlast
  | cleanLogs =>
    have hclean := throughout_of_prunings hlogs
      (cleanLogs_ensures (prunings_allowsPruning s.dialect s.journal.logName)) h
    exact throughout_bind (throughout_discard hclean) fun _ _ _ hlast => throughout_pure hlast
  | reset => exact throughout_pure h

end Session

/-! ## §4. Histories -/

/-- Only the session touches the rows of its logs during a turn: neither what
    happens between the turns nor the script that is executed changes them. -/
structure Turn.SparesLogs {σ : Type} (db : Database σ) (j : Journal)
    (rows : σ → Text → List LogEntry) (t : Turn σ) : Prop where
  between : ∀ schema, j.logRows rows t.found schema = j.logRows rows t.left schema
  script : ∀ sql options, t.request = .query sql options → ∀ schema,
    j.logRows rows (db.execute (.plain sql) t.found).2 schema = j.logRows rows t.found schema

/-- A turn that spares the logs keeps them in order at every moment. -/
theorem Turn.SparesLogs.throughout_serve {σ : Type} {db : Database σ} {j : Journal}
    {rows : σ → Text → List LogEntry} {t : Turn σ} (hspares : t.SparesLogs db j rows)
    (hlogs : KeepsLogs db j.dialect j.logName rows) (hjournal : t.session.journal = j)
    (h : j.InOrder rows t.found) :
    (t.session.serve t.request).Throughout db (j.InOrder rows) t.found := by
  subst hjournal
  exact Session.throughout_serve hlogs h fun sql options hrequest =>
    h.of_eq (hspares.script sql options hrequest)

/-- **One row per table.**  A session opens with a database that keeps logs, none
    of which has a row at first, and its scripts and whatever happens between its
    requests spare them.  Then, in the log of every schema, all rows are for that
    schema and no two of them are for the same table: after every history, however
    its statements and lookups fail, and at every moment of the request that comes
    next, whether that is seen through or breaks off. -/
theorem History.one_log_row_per_table {σ : Type} {db : Database σ} {database : Dialect}
    {c : SessionContext} {rows : σ → Text → List LogEntry} {s₀ s : Session}
    {initial state₀ state : σ} {turns : List (Turn σ)}
    (hlogs : KeepsLogs db c.dialect (Session.journalOf c).logName rows)
    (hempty : ∀ schema, (Session.journalOf c).logRows rows initial schema = [])
    (hopen : (Session.openWith database c).run db initial = (.ok (.ok s₀), state₀))
    (history : History db s₀ state₀ turns s state)
    (hspares : ∀ t ∈ turns, t.SparesLogs db (Session.journalOf c) rows) :
    (Session.journalOf c).InOrder rows state
      ∧ ∀ found request,
        Turn.SparesLogs db (Session.journalOf c) rows ⟨s, state, found, request⟩ →
          (s.serve request).Throughout db ((Session.journalOf c).InOrder rows) found := by
  -- opening may housekeep, which leaves logs without rows as they are
  have hopened : (Session.journalOf c).InOrder rows state₀ := by
    have hempties : (Session.journalOf c).InOrder rows initial := by
      intro schema
      rw [hempty schema]
      exact OneRowPerTable.nil schema
    have hopening := Session.openWith_ensures database (prunings_allowsPruning c.dialect _)
    have hlast :=
      (Journal.throughout_of_prunings (j := Session.journalOf c) hlogs hopening hempties).run
    rw [hopen] at hlast
    exact hlast
  obtain ⟨schema, rfl⟩ := Session.openWith_run hopen
  have hstate : (Session.journalOf c).InOrder rows state := by
    refine history.upholds (fun t ht h => h.of_eq (hspares t ht).between) ?_ hopened
    exact fun t ht hcarries h =>
      ((hspares t ht).throughout_serve hlogs hcarries.journal_eq h).run
  refine ⟨hstate, fun found request hnext => ?_⟩
  exact hnext.throughout_serve hlogs history.carriesOn.journal_eq (hstate.of_eq hnext.between)

end TableLedger
