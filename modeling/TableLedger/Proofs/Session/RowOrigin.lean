/-
  TableLedger.Proofs.Session.RowOrigin — where the row of a table comes from.

  Following the events of a script moves the rows of a log about.  A drop deletes the
  rows of its table, a rename gives those of the old name to the new one, and a
  creation of a table that is to stay touches no row at all.  Read backwards, this
  says of every name from which name its rows have come, or that they are deleted.

  Main statements:
    • `rowsFor_foldl_carry` — the rows of a table after some events are those of its
      origin,
    • `Session.follow_rows` — following an event carries the rows along, wherever it
      ends,
    • `Session.recordEvents_rows` — so does recording the events of a script whose
      tables are to stay.
-/

import TableLedger.Proofs.Journal.ServedLogs
import TableLedger.Proofs.Session.DefaultSchema

namespace TableLedger

open Dialogue

/-! ## §1. Rows and events -/

/-- If the event is a rename, it changes the name of a table of the session's own
    database, and nothing but the name. -/
def TableEvent.RenamesInPlace : TableEvent → Prop
  | .created _ | .dropped _ => True
  | .renamed old new => old.isLocal = true ∧ new = old.withName new.table

/-- Every rename that a script comes to is of this kind. -/
theorem Script.renamesInPlace_of_classify {d : Dialect} {defaultSchema script : Text}
    {c : Classification} (h : classify d defaultSchema script = .ok c) :
    ∀ event ∈ c.events, event.RenamesInPlace := by
  intro event hevent
  obtain ⟨m, -, hm⟩ := (mem_events_classify h).mp hevent
  obtain ⟨table, -, rfl⟩ := Naming.parse_of_event? hm
  cases m.change with
  | creation => trivial
  | drop => trivial
  | rename newName => exact ⟨rfl, rfl⟩

namespace TableEvent

/-- What following an event does to the rows of the log of a schema, unless it creates
    a table for a time. -/
def carry (schema : Text) : TableEvent → List LogEntry → List LogEntry
  | .created _, rows => rows
  | .dropped table, rows =>
    if table.isLocal = true ∧ schema = table.schema then
      ((LogCommand.delete table.table).sql schema).apply rows
    else rows
  | .renamed old new, rows =>
    if schema = old.schema then
      ((LogCommand.delete old.table).sql schema).apply
        (((LogCommand.rename old.table new.table).sql schema).apply
          (((LogCommand.delete new.table).sql schema).apply rows))
    else rows

/-- The name that the rows of a name have come from by an event, unless the event
    deletes them. -/
def rowSource? (schema name : Text) : TableEvent → Option Text
  | .created _ => some name
  | .dropped table =>
    if table.isLocal = true ∧ schema = table.schema ∧ name = table.table then none else some name
  | .renamed old new =>
    if schema = old.schema then
      if name = old.table then none
      else if name = new.table then some old.table
      else some name
    else some name

end TableEvent

/-- The name that the rows of a name have come from by events, latest last, unless one
    of them deletes them. -/
def rowOrigin? (schema : Text) : List TableEvent → Text → Option Text
  | [], name => some name
  | event :: rest, name => (rowOrigin? schema rest name).bind (event.rowSource? schema ·)

theorem rowOrigin?_cons (schema name : Text) (event : TableEvent) (rest : List TableEvent) :
    rowOrigin? schema (event :: rest) name
      = (rowOrigin? schema rest name).bind (event.rowSource? schema ·) := rfl

/-- Rows that name a table are not changed by naming it. -/
theorem map_named_rowsFor (schema name : Text) (rows : List LogEntry) :
    (rowsFor schema name rows).map (LogEntry.named name) = rowsFor schema name rows := by
  conv => rhs; rw [← List.map_id (rowsFor schema name rows)]
  refine List.map_congr_left fun e he => ?_
  obtain ⟨-, -, rfl⟩ := mem_rowsFor_iff.mp he
  rfl

/-- One event carries the rows of a name on from their source. -/
theorem rowsFor_carry (schema name : Text) (event : TableEvent) (rows : List LogEntry) :
    rowsFor schema name (event.carry schema rows)
      = (event.rowSource? schema name).elim [] fun source =>
          (rowsFor schema source rows).map (LogEntry.named name) := by
  -- a creation leaves the rows alone, a drop deletes those of a name, a rename hands them on
  cases event with
  | created table => exact (map_named_rowsFor schema name rows).symm
  | dropped table =>
    simp only [TableEvent.carry, TableEvent.rowSource?]
    by_cases hhere : table.isLocal = true ∧ schema = table.schema
    · rw [if_pos hhere, rowsFor_apply_delete]
      by_cases hname : name = table.table
      · rw [if_pos hname, if_pos ⟨hhere.1, hhere.2, hname⟩]
        rfl
      · rw [if_neg hname, if_neg fun h => hname h.2.2]
        exact (map_named_rowsFor schema name rows).symm
    · rw [if_neg hhere, if_neg fun h => hhere ⟨h.1, h.2.1⟩]
      exact (map_named_rowsFor schema name rows).symm
  | renamed old new =>
    simp only [TableEvent.carry, TableEvent.rowSource?]
    by_cases hhere : schema = old.schema
    · rw [if_pos hhere, if_pos hhere, rowsFor_follow_rename]
      by_cases hold : name = old.table
      · rw [if_pos hold, if_pos hold]
        rfl
      · rw [if_neg hold, if_neg hold]
        by_cases hnew : name = new.table
        · rw [if_pos hnew, if_pos hnew, hnew]
          rfl
        · rw [if_neg hnew, if_neg hnew]
          exact (map_named_rowsFor schema name rows).symm
    · rw [if_neg hhere, if_neg hhere]
      exact (map_named_rowsFor schema name rows).symm

/-- Events carry the rows of a name on from their origin. -/
theorem rowsFor_foldl_carry (schema : Text) (events : List TableEvent) (name : Text)
    (rows : List LogEntry) :
    rowsFor schema name (events.foldl (fun moved event => event.carry schema moved) rows)
      = (rowOrigin? schema events name).elim [] fun origin =>
          (rowsFor schema origin rows).map (LogEntry.named name) := by
  induction events generalizing rows with
  | nil => exact (map_named_rowsFor schema name rows).symm
  | cons event rest ih =>
    rw [List.foldl_cons, ih, rowOrigin?_cons]
    cases rowOrigin? schema rest name with
    | none => rfl
    | some middle =>
      -- the rows come to `middle` by the first event, and from there by the others
      show (rowsFor schema middle (event.carry schema rows)).map (LogEntry.named name) = _
      rw [rowsFor_carry]
      show _ = (event.rowSource? schema middle).elim [] _
      cases event.rowSource? schema middle with
      | none => rfl
      | some source =>
        show ((rowsFor schema source rows).map (LogEntry.named middle)).map _ = _
        rw [List.map_map]
        rfl

/-- The origin of a row is traced through the later events first. -/
theorem rowOrigin?_append (schema name : Text) (events more : List TableEvent) :
    rowOrigin? schema (events ++ more) name
      = (rowOrigin? schema more name).bind (rowOrigin? schema events ·) := by
  induction events with
  | nil =>
    show rowOrigin? schema more name = (rowOrigin? schema more name).bind some
    cases rowOrigin? schema more name with
    | none => rfl
    | some origin => rfl
  | cons event rest ih =>
    rw [List.cons_append, rowOrigin?_cons, ih, Option.bind_assoc]
    rfl

/-- Two tables of the session's own database are told apart by schema and name. -/
theorem TableRef.eq_of_isLocal {r s : TableRef} (hr : r.isLocal = true) (hs : s.isLocal = true)
    (hschema : r.schema = s.schema) (htable : r.table = s.table) : r = s := by
  obtain ⟨server, database, schema, table⟩ := r
  obtain ⟨server', database', schema', table'⟩ := s
  obtain ⟨rfl, rfl⟩ := isLocal_iff.mp hr
  obtain ⟨rfl, rfl⟩ := isLocal_iff.mp hs
  cases hschema
  cases htable
  rfl

/-- An event that is not about a table leaves its rows where they are. -/
theorem TableEvent.rowSource?_of_not_mem_tables {event : TableEvent} {table : TableRef}
    (hstays : event.RenamesInPlace) (hlocal : table.isLocal = true) (hnot : table ∉ event.tables) :
    event.rowSource? table.schema table.table = some table.table := by
  cases event with
  | created other => rfl
  | dropped other =>
    refine if_neg fun ⟨hother, hschema, htable⟩ => hnot ?_
    rw [TableRef.eq_of_isLocal hlocal hother hschema htable]
    exact List.mem_cons_self
  | renamed old new =>
    -- rows are renamed by schema and name; a local table with both of them would be the one renamed
    have hold : old.isLocal = true := hstays.1
    have hnew : new = old.withName new.table := hstays.2
    show (if table.schema = old.schema then _ else _) = _
    split
    · next hschema =>
      have hneOld : table.table ≠ old.table := by
        intro htable
        refine hnot ?_
        rw [TableRef.eq_of_isLocal hlocal hold hschema htable]
        exact List.mem_cons_self
      have hneNew : table.table ≠ new.table := by
        intro htable
        refine hnot ?_
        have hnewLocal : new.isLocal = true := by rw [hnew]; exact hold
        have hnewSchema : table.schema = new.schema := by rw [hnew]; exact hschema
        rw [TableRef.eq_of_isLocal hlocal hnewLocal hnewSchema htable]
        exact List.mem_cons_of_mem _ List.mem_cons_self
      rw [if_neg hneOld, if_neg hneNew]
    · rfl

/-- A table that no event is about keeps its rows. -/
theorem rowOrigin?_of_not_mem_tables {events : List TableEvent} {table : TableRef}
    (hstays : ∀ event ∈ events, event.RenamesInPlace) (hlocal : table.isLocal = true)
    (hnot : ∀ event ∈ events, table ∉ event.tables) :
    rowOrigin? table.schema events table.table = some table.table := by
  induction events with
  | nil => rfl
  | cons event rest ih =>
    rw [List.forall_mem_cons] at hstays hnot
    rw [rowOrigin?_cons, ih hstays.2 hnot.2]
    exact TableEvent.rowSource?_of_not_mem_tables hstays.1 hlocal hnot.1

/-- Whether some row for a table expires. -/
def Expires (schema name : Text) (rows : List LogEntry) : Prop :=
  ∃ e ∈ rowsFor schema name rows, e.expires.isSome = true

/-- The rows of a name expire after some events if those of its origin did before. -/
theorem expires_foldl_carry_iff {schema name : Text} {events : List TableEvent}
    {rows : List LogEntry} :
    Expires schema name (events.foldl (fun moved event => event.carry schema moved) rows)
      ↔ ∃ origin, rowOrigin? schema events name = some origin ∧ Expires schema origin rows := by
  unfold Expires
  rw [rowsFor_foldl_carry]
  cases rowOrigin? schema events name with
  | none => simp
  | some origin =>
    constructor
    · rintro ⟨e, he, hexpires⟩
      obtain ⟨row, hrow, rfl⟩ := List.mem_map.mp he
      exact ⟨origin, rfl, row, hrow, hexpires⟩
    · rintro ⟨other, hother, row, hrow, hexpires⟩
      obtain rfl : origin = other := Option.some.inj hother
      exact ⟨row.named name, List.mem_map_of_mem hrow, hexpires⟩

/-! ## §2. Following events -/

namespace Session

variable {σ : Type} {db : Database σ} {s : Session} {logs : σ → Text → Option (List LogEntry)}
  (hserves : ServesLogs db s.dialect s.journal.logName logs)

include hserves

/-- Forgetting a table deletes its rows if it is of the session's own database. -/
theorem forgetLogged_rows (table : TableRef) (state : σ) :
    ∃ final, (s.forgetLogged table).run db state = (.ok (), final)
      ∧ ∀ schema, s.journal.logRows (rowsOf logs) final schema
        = (TableEvent.dropped table).carry schema
            (s.journal.logRows (rowsOf logs) state schema) := by
  unfold forgetLogged
  split
  · next hlocal =>
    obtain ⟨found, final, hrun, hrows⟩ :=
      Journal.trackDropped_run (j := s.journal) hserves table.schema table.table state
    refine ⟨final, run_bind_of_ok hrun, fun schema => ?_⟩
    rw [hrows]
    simp only [TableEvent.carry]
    by_cases hschema : schema = table.schema
    · rw [if_pos hschema, if_pos ⟨hlocal, hschema⟩, hschema]
    · rw [if_neg hschema, if_neg fun h => hschema h.2]
  · next helsewhere =>
    refine ⟨state, rfl, fun schema => ?_⟩
    simp only [TableEvent.carry]
    rw [if_neg fun h => helsewhere h.1]

/-- Renaming indexes touches no row, wherever it ends. -/
theorem renameIndexes_rows (table : TableRef) (old : Text) (state : σ) (schema : Text) :
    s.journal.logRows (rowsOf logs)
        ((discard (IndexRename.renameIndexes s.dialect table old)).run db state).2 schema
      = s.journal.logRows (rowsOf logs) state schema := by
  let conduct : Conduct := ⟨fun t => (∃ r, t = Catalog.listIndexes s.dialect r)
    ∨ ∃ r index newIndex, t = Catalog.renameIndex s.dialect r index newIndex, True⟩
  have hensures : (discard (IndexRename.renameIndexes s.dialect table old)).Ensures conduct
      fun _ => True :=
    ensures_discard (IndexRename.renameIndexes_ensures table old (fun r => .inl ⟨r, rfl⟩)
      (fun r index newIndex => .inr ⟨r, index, newIndex, rfl⟩) trivial)
  have hkept : Kept db conduct.statements fun last =>
      s.journal.logRows (rowsOf logs) last schema
        = s.journal.logRows (rowsOf logs) state schema := by
    refine ⟨fun t last ht h => ?_, fun r last h => ?_, fun last h => ?_, fun last h => ?_⟩
    · obtain ⟨r, rfl⟩ | ⟨r, index, newIndex, rfl⟩ := ht
      · exact (hserves.keeps.listIndexes r last _).trans h
      · exact (hserves.keeps.renameIndex r index newIndex last _).trans h
    · exact (hserves.keeps.lookUp r last _).trans h
    · exact (hserves.keeps.askSchema last _).trans h
    · exact (hserves.keeps.readClock last _).trans h
  exact (hensures.run hkept rfl).1

/-- Following an event carries the rows along, wherever it ends, unless the event
    creates a table for a time. -/
theorem follow_rows {temporary : Bool} {event : TableEvent} (hlocal : event.RenamesInPlace)
    (hstays : ∀ table, event = .created table → temporary = false) (state : σ) (schema : Text) :
    s.journal.logRows (rowsOf logs) ((s.follow temporary event).run db state).2 schema
      = event.carry schema (s.journal.logRows (rowsOf logs) state schema) := by
  cases event with
  | created table =>
    -- nothing is written for a table that is to stay
    rw [hstays table rfl]
    rfl
  | dropped table =>
    obtain ⟨final, hrun, hrows⟩ := forgetLogged_rows hserves table state
    show s.journal.logRows _ ((s.forgetLogged table).run db state).2 schema = _
    rw [hrun, hrows]
  | renamed old new =>
    obtain ⟨hold, hnew⟩ := hlocal
    have hnewLocal : new.isLocal = true := by rw [hnew]; exact hold
    have hschema : new.schema = old.schema := by rw [hnew]; rfl
    obtain ⟨found, tracked, htrack, hrenamed⟩ := Journal.trackRenamed_run (j := s.journal)
      hserves new.schema old.table new.table state
    obtain ⟨forgotten, hforget, hdeleted⟩ := forgetLogged_rows hserves old tracked
    -- first the row is renamed, then what is left under the old name is deleted; indexes touch no
    -- row
    have htracked : (discard (s.journal.trackRenamed new.schema old.table new.table).run).run db
        state = (.ok (), tracked) := run_bind_of_ok htrack
    show s.journal.logRows _ ((s.followRename old new).run db state).2 schema = _
    unfold followRename
    rw [if_pos hnewLocal, run_bind_of_ok htracked, run_bind_of_ok hforget,
      renameIndexes_rows hserves, hdeleted, hrenamed, hschema]
    simp only [TableEvent.carry]
    by_cases hhere : schema = old.schema
    · rw [if_pos ⟨hold, hhere⟩, if_pos hhere, if_pos hhere, hhere]
    · rw [if_neg fun h => hhere h.2, if_neg hhere, if_neg hhere]

omit hserves in
/-- Recording the events of a script whose tables are to stay carries the rows along. -/
theorem recordEvents_rows (events : List TableEvent) (s : Session)
    (hserves : ServesLogs db s.dialect s.journal.logName logs)
    (hlocal : ∀ event ∈ events, event.RenamesInPlace) {state final : σ} {after : Session}
    (hrun : (recordEvents false s events).run db state = (.ok after, final)) (schema : Text) :
    s.journal.logRows (rowsOf logs) final schema
      = events.foldl (fun moved event => event.carry schema moved)
          (s.journal.logRows (rowsOf logs) state schema) := by
  induction events generalizing s state with
  | nil =>
    obtain ⟨-, rfl⟩ := Prod.mk.inj hrun
    rfl
  | cons event rest ih =>
    -- the registry does not matter to the logs, so the session may go on with any
    let recorded : Session := { s with registry := s.registry.record event }
    obtain ⟨⟨⟩, followed, hfollow, hrest⟩ := run_bind_eq_ok hrun
    have hcarried : s.journal.logRows (rowsOf logs) ((recorded.follow false event).run db state).2
          schema = event.carry schema (s.journal.logRows (rowsOf logs) state schema) :=
      follow_rows (s := recorded) hserves (hlocal event List.mem_cons_self) (fun _ _ => rfl) state
        schema
    rw [hfollow] at hcarried
    rw [List.foldl_cons, ← hcarried]
    exact ih recorded hserves (fun e he => hlocal e (List.mem_cons_of_mem _ he)) hrest

omit hserves in
/-- Recording one event leaves the database as following it does. -/
theorem recordEvents_singleton_run (temporary : Bool) (event : TableEvent) (state : σ) :
    ((recordEvents temporary s [event]).run db state).2
      = ((follow { s with registry := s.registry.record event } temporary event).run db
          state).2 := by
  show (Dialogue.run db (follow _ temporary event >>= fun _ => pure _) state).2 = _
  rw [run_bind]
  split
  · next hrun => rw [hrun]; rfl
  · next hrun => rw [hrun]

end Session

end TableLedger
