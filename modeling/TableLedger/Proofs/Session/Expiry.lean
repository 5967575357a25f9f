/-
  TableLedger.Proofs.Session.Expiry — scripts that are executed and not recorded to the end.

  Settings are refused if their tables would expire in the past, and not if they would
  expire behind the last day of the calendar.  The days are added to the clock when the
  first table is logged: the script has been executed by then, and the caller never hears
  of it.  No other setting can do this, and nothing that the database answers, save a
  listed index in whose name the old table name is found inside a character.

  What recording comes to is told event by event: an event is followed to the end or
  breaks off by itself, and the first one to break off ends the recording.

  Main statements:
    • `addDays?_eq_none_iff` — expiries beyond the calendar,
    • `follow_run_eq_error_iff` — when one event breaks off,
    • `recordEvents_run_eq_error_iff` — when recording does,
    • `recording_breaks_off_iff` — for settings, sessions and scripts.
-/

import TableLedger.Proofs.IndexRename
import TableLedger.Proofs.Session.History
import TableLedger.Proofs.Session.TruthfulCatalog
import TableLedger.Settings.Basic

namespace TableLedger

/-! ## §1. Days -/

namespace Settings

theorem exists_of_bind_eq_ok {ε α β : Type} {x : Except ε α} {f : α → Except ε β} {b : β}
    (h : x >>= f = .ok b) : ∃ a, x = .ok a ∧ f a = .ok b := by
  cases x with
  | error e => exact nomatch h
  | ok a => exact ⟨a, rfl, h⟩

/-- Settings that are loaded let no table expire in the past. -/
theorem expirationDays_nonneg {env : Environment} {settings : Settings}
    (h : load env = .ok settings) : 0 ≤ settings.expirationDays := by
  obtain ⟨timeoutSeconds, -, h⟩ := exists_of_bind_eq_ok h
  obtain ⟨days, -, h⟩ := exists_of_bind_eq_ok h
  obtain ⟨archiveIsPermanent, -, h⟩ := exists_of_bind_eq_ok h
  obtain ⟨cleansLogsOnOpen, -, h⟩ := exists_of_bind_eq_ok h
  simp only at h
  split at h
  · exact nomatch h
  · split at h
    · exact nomatch h
    · next hdays =>
      injection h with h
      rw [← h]
      exact Int.not_lt.mp hdays

/-- The days of a session are those of its settings. -/
theorem expirationDays_of_context {settings : Settings} {c : SessionContext}
    (h : settings.context = .ok c) : c.expirationDays = settings.expirationDays := by
  unfold context at h
  split at h
  · exact nomatch h
  · injection h with h
    rw [← h]

end Settings

/-- An expiry lies beyond the calendar if it lies behind its last day. -/
theorem Timestamp.addDays?_eq_none_iff {t : Timestamp} {days : Int}
    (ht : Calendar.includes t.day = true) (hdays : 0 ≤ days) :
    t.addDays? days = none ↔ Calendar.lastDay < t.day + days := by
  simp only [Calendar.includes, Bool.and_eq_true, decide_eq_true_eq] at ht
  unfold addDays?
  split
  · next hin =>
    simp only [Calendar.includes, Bool.and_eq_true, decide_eq_true_eq] at hin
    exact iff_of_false nofun (by omega)
  · next hout =>
    simp only [Calendar.includes, Bool.and_eq_true, decide_eq_true_eq, not_and] at hout
    exact iff_of_true rfl (by omega)

open Dialogue

variable {σ : Type} {db : Database σ} {state : σ} {fault : Fault}

/-! ## §2. One event -/

namespace Journal

variable {j : Journal}

/-- Anything but breaking off. -/
def unbroken : Conduct := ⟨fun _ => True, False⟩

/-- A journal that may not break off comes to its end. -/
theorem KeepsTo.exists_run_eq_ok {α : Type} {x : JournalDialogue α} (h : KeepsTo unbroken x)
    (db : Database σ) (state : σ) : ∃ result after, x.run.run db state = (.ok result, after) := by
  have hended : ∃ result, (x.run.run db state).1 = .ok result := Ensures.run_ok h not_false state
  obtain ⟨result, hresult⟩ := hended
  exact ⟨result, _, Prod.ext hresult rfl⟩

/-- Nothing breaks off where a rename is tracked. -/
theorem keepsTo_trackRenamed (schema old new : Text) :
    KeepsTo unbroken (j.trackRenamed schema old new) := by
  refine keepsTo_bind (j.keepsTo_logExists schema) fun found => ?_
  cases found with
  | false => exact keepsTo_pure _
  | true =>
    exact keepsTo_bind (keepsTo_discard (j.keepsTo_perform trivial)) fun _ =>
      keepsTo_bind (keepsTo_discard (j.keepsTo_perform trivial)) fun _ => keepsTo_pure _

/-- What breaks off at first breaks off as a whole. -/
theorem run_lift_bind_of_error {α β : Type} {x : Dialogue α} {f : α → JournalDialogue β}
    {after : σ} (h : x.run db state = (.error fault, after)) :
    ((liftM x : JournalDialogue α) >>= f).run.run db state = (.error fault, after) := by
  have hlift : (x >>= fun a => pure (Except.ok a)).run db state
      = ((.error fault : Except Fault (Except JournalError α)), after) := by
    rw [run_bind, h]
  show ((x >>= fun a => pure (Except.ok a)) >>= ExceptT.bindCont f).run db state = _
  rw [run_bind, hlift]

/-- Making an entry reads the clock once, and breaks off if the expiry is beyond the calendar. -/
theorem entryNow_run (j : Journal) (db : Database σ) (state : σ) (r : TableRef) :
    (j.entryNow r true).run db state
      = match (db.readClock state).1.addDays? j.expirationDays with
        | some expiry =>
          (.ok ⟨j.owner, r.schema, r.table, (db.readClock state).1, some expiry⟩,
            (db.readClock state).2)
        | none => (.error .expiryOutOfRange, (db.readClock state).2) := by
  have hread : readingClock.run db state
      = (.ok (db.readClock state).1, (db.readClock state).2) := rfl
  rw [entryNow, run_bind_of_ok hread, if_pos rfl]
  cases (db.readClock state).1.addDays? j.expirationDays <;> rfl

/-- **Logging a table breaks off** if it is loggable and would expire beyond the calendar. -/
theorem trackCreated_run_eq_error_iff {r : TableRef}
    (hclock : Calendar.includes (db.readClock state).1.day = true)
    (hdays : 0 ≤ j.expirationDays) :
    ((j.trackCreated r true).run.run db state).1 = .error fault
      ↔ fault = .expiryOutOfRange ∧ j.isLoggable r = true
        ∧ Calendar.lastDay < (db.readClock state).1.day + j.expirationDays := by
  rw [← Timestamp.addDays?_eq_none_iff hclock hdays, trackCreated]
  cases hloggable : j.isLoggable r with
  | false => exact iff_of_false nofun nofun
  | true =>
    have hentry := j.entryNow_run db state r
    cases hexpiry : (db.readClock state).1.addDays? j.expirationDays with
    | none =>
      rw [hexpiry] at hentry
      show ((liftM (j.entryNow r true) >>= _ : JournalDialogue Bool).run.run db state).1 = _ ↔ _
      rw [run_lift_bind_of_error hentry]
      simp [eq_comm]
    | some expiry =>
      rw [hexpiry] at hentry
      show ((liftM (j.entryNow r true) >>= _ : JournalDialogue Bool).run.run db state).1 = _ ↔ _
      rw [run_lift_bind_of_ok hentry]
      -- with an entry there is only the row to insert, and a refusal there is an answer
      have hinsert : KeepsTo unbroken (j.insert ⟨j.owner, r.schema, r.table,
          (db.readClock state).1, some expiry⟩ >>= fun _ => pure true) :=
        keepsTo_bind (j.keepsTo_insert trivial trivial trivial) fun _ => keepsTo_pure _
      obtain ⟨result, after, hrun⟩ := hinsert.exists_run_eq_ok db (db.readClock state).2
      rw [hrun]
      exact iff_of_false nofun nofun

end Journal

namespace Session

/-- The rows of a renamed table are brought in line before its indexes are. -/
def followRows (s : Session) (old new : TableRef) : Dialogue Unit := do
  discard (s.journal.trackRenamed new.schema old.table new.table).run
  s.forgetLogged old

/-- Why an event cannot be followed to the end, with the database in a state. -/
inductive CannotFollow (db : Database σ) (s : Session) (temporary : Bool) (days : Int) (state : σ) :
    TableEvent → Fault → Prop
  /-- A loggable table would expire beyond the calendar. -/
  | expiry {r : TableRef} (htemporary : temporary = true)
      (hloggable : s.journal.isLoggable r = true)
      (hbeyond : Calendar.lastDay < (db.readClock state).1.day + days) :
      CannotFollow db s temporary days state (.created r) .expiryOutOfRange
  /-- The old name of a table is found inside a character of an index name. -/
  | index {old new : TableRef} {followed : σ} {listed : QueryResult} {index : Text}
      (hlocal : new.isLocal = true)
      (hrows : (s.followRows old new).run db state = (.ok (), followed))
      (hold : old.table ≠ []) (hnew : old.table ≠ new.table)
      (hlisted : (db.execute (Catalog.listIndexes s.dialect new) followed).1 = .ok listed)
      (hindex : index ∈ listed.columnTexts Catalog.indexNameColumn)
      (hcuts : Text.CutsCharacter old.table index) :
      CannotFollow db s temporary days state (.renamed old new) .cutInsideCharacter

variable {s : Session} {temporary : Bool}

/-- Nothing breaks off where rows are forgotten. -/
theorem forgetLogged_run_ne_error (table : TableRef) :
    ((s.forgetLogged table).run db state).1 ≠ .error fault := by
  have hended : ∃ result, ((s.forgetLogged table).run db state).1 = .ok result :=
    (s.forgetLogged_ensures table).run_ok not_false state
  obtain ⟨result, hresult⟩ := hended
  rw [hresult]
  exact nofun

theorem followRows_run_ne_error (old new : TableRef) :
    ((s.followRows old new).run db state).1 ≠ .error fault := by
  rw [followRows, Ne, run_bind_eq_error_iff, not_or, run_discard_eq_error_iff]
  obtain ⟨result, after, hrun⟩ := (Journal.keepsTo_trackRenamed (j := s.journal) new.schema
    old.table new.table).exists_run_eq_ok db state
  refine ⟨by rw [hrun]; exact nofun, ?_⟩
  rintro ⟨_, later, -, hforget⟩
  exact forgetLogged_run_ne_error old hforget

/-- The indexes of a renamed table are renamed behind its rows. -/
theorem followRename_run_eq_error_iff {old new : TableRef} :
    ((s.followRename old new).run db state).1 = .error fault
      ↔ CannotFollow db s temporary s.context.expirationDays state (.renamed old new) fault := by
  by_cases hlocal : new.isLocal = true
  · have hrename : (s.followRename old new).run db state
        = (s.followRows old new >>= fun _ =>
          discard (IndexRename.renameIndexes s.dialect new old.table)).run db state := by
      unfold followRename followRows
      rw [if_pos hlocal]
      simp only [run_bind]
      split <;> rfl
    -- the rows are followed to the end, so it can only be the indexes
    rw [hrename, run_bind_eq_error_iff]
    simp only [followRows_run_ne_error, false_or, run_discard_eq_error_iff,
      IndexRename.renameIndexes_run_eq_error_iff]
    constructor
    · rintro ⟨_, followed, hrows, rfl, hold, hnew, listed, hlisted, index, hindex, hcuts⟩
      exact .index hlocal hrows hold hnew hlisted hindex hcuts
    · intro h
      cases h with
      | index _ hrows hold hnew hlisted hindex hcuts =>
      exact ⟨(), _, hrows, rfl, hold, hnew, _, hlisted, _, hindex, hcuts⟩
  · refine iff_of_false ?_ ?_
    · rw [followRename, if_neg hlocal]
      exact nofun
    · intro h
      cases h with
      | index hlocal' => exact hlocal hlocal'

/-- **When an event cannot be followed.** -/
theorem follow_run_eq_error_iff {event : TableEvent}
    (hclock : Calendar.includes (db.readClock state).1.day = true)
    (hdays : 0 ≤ s.context.expirationDays) :
    ((s.follow temporary event).run db state).1 = .error fault
      ↔ CannotFollow db s temporary s.context.expirationDays state event fault := by
  cases event with
  | created table =>
    show ((if temporary then _ else _ : Dialogue Unit).run db state).1 = _ ↔ _
    cases temporary with
    | false => exact iff_of_false nofun nofun
    | true =>
      rw [if_pos rfl, run_discard_eq_error_iff,
        Journal.trackCreated_run_eq_error_iff (j := s.journal) hclock hdays]
      constructor
      · rintro ⟨rfl, hloggable, hbeyond⟩
        exact .expiry rfl hloggable hbeyond
      · rintro ⟨-, hloggable, hbeyond⟩
        exact ⟨rfl, hloggable, hbeyond⟩
  | dropped table =>
    exact iff_of_false (forgetLogged_run_ne_error table) nofun
  | renamed old new => exact followRename_run_eq_error_iff

/-! ## §3. All events -/

/-- Nothing but its context tells what a session can follow. -/
theorem CannotFollow.of_context {s s' : Session} {event : TableEvent} {days : Int}
    (h : CannotFollow db s temporary days state event fault) (hcontext : s.context = s'.context) :
    CannotFollow db s' temporary days state event fault := by
  obtain ⟨context, schema, registry, phase⟩ := s
  obtain ⟨context', schema', registry', phase'⟩ := s'
  obtain rfl : context = context' := hcontext
  cases h with
  | expiry htemporary hloggable hbeyond => exact .expiry htemporary hloggable hbeyond
  | index hlocal hrows hold hnew hlisted hindex hcuts =>
    exact .index hlocal hrows hold hnew hlisted hindex hcuts

/-- Whether an event can be followed depends on the context of the session only. -/
theorem cannotFollow_iff_of_context {s s' : Session} {event : TableEvent} {days : Int}
    (hcontext : s.context = s'.context) :
    CannotFollow db s temporary days state event fault
      ↔ CannotFollow db s' temporary days state event fault :=
  ⟨fun h => h.of_context hcontext, fun h => h.of_context hcontext.symm⟩

/-- **When recording breaks off**: an event cannot be followed behind those in front of it. -/
theorem recordEvents_run_eq_error_iff {events : List TableEvent}
    (hclock : ∀ state, Calendar.includes (db.readClock state).1.day = true)
    (hdays : 0 ≤ s.context.expirationDays) :
    ((recordEvents temporary s events).run db state).1 = .error fault
      ↔ ∃ front event rest reached found, events = front ++ event :: rest
        ∧ (recordEvents temporary s front).run db state = (.ok reached, found)
        ∧ CannotFollow db s temporary s.context.expirationDays found event fault := by
  -- the first event breaks off by itself, or the others do in the state that it leaves
  induction events generalizing s state with
  | nil => simp [recordEvents]
  | cons event rest ih =>
    let recorded : Session := { s with registry := s.registry.record event }
    -- the registry has the event already, but what can be followed depends on the context alone
    have hfollow : ((recorded.follow temporary event).run db state).1 = .error fault
        ↔ CannotFollow db s temporary s.context.expirationDays state event fault :=
      (follow_run_eq_error_iff (s := recorded) (hclock state) hdays).trans
        (cannotFollow_iff_of_context rfl)
    have hstep : ∀ events, recordEvents temporary s (event :: events)
        = (recorded.follow temporary event >>= fun _ => recordEvents temporary recorded events) :=
      fun _ => rfl
    rw [hstep, run_bind_eq_error_iff, hfollow]
    constructor
    · rintro (hcannot | ⟨_, after, hfollowed, hrest⟩)
      · exact ⟨[], event, rest, s, state, rfl, rfl, hcannot⟩
      · obtain ⟨front, later, behind, reached, found, rfl, hrun, hcannot⟩ :=
          (ih (s := recorded) hdays).mp hrest
        refine ⟨event :: front, later, behind, reached, found, rfl, ?_,
          hcannot.of_context rfl⟩
        rw [hstep, run_bind_of_ok hfollowed, hrun]
    · rintro ⟨front, later, behind, reached, found, hevents, hrun, hcannot⟩
      cases front with
      | nil =>
        obtain ⟨rfl, rfl⟩ := List.cons.inj hevents
        obtain ⟨rfl, rfl⟩ : s = reached ∧ state = found := by simpa [recordEvents] using hrun
        exact .inl hcannot
      | cons first front =>
        obtain ⟨rfl, rfl⟩ := List.cons.inj hevents
        rw [hstep] at hrun
        obtain ⟨_, after, hfollowed, hrest⟩ := run_bind_eq_ok hrun
        exact .inr ⟨_, after, hfollowed, (ih (s := recorded) hdays).mpr
          ⟨front, later, behind, reached, found, rfl, hrest,
            hcannot.of_context rfl⟩⟩

/-! ## §4. Scripts -/

/-- What comes behind a script breaks off where its events are recorded. -/
theorem postProcess_run_eq_error_iff {script : Text} :
    ((postProcess { s with phase := .postProcessing } script temporary).run db state).1
        = .error fault
      ↔ ((recordEvents temporary s.begun (s.eventsOf script)).run db state).1 = .error fault := by
  unfold postProcess eventsOf
  simp only [dialect]
  cases Script.classify s.context.dialect s.defaultSchema script with
  | error e => simp [recordEvents]
  | ok c =>
    show ((recordEvents temporary s.begun c.events >>= fun after =>
      pure ((.ok c : Except Error Classification), after)).run db state).1 = _ ↔ _
    rw [run_bind_eq_error_iff]
    simp

/-- A query breaks off where its recording does. -/
theorem query_run_eq_error_iff {script : Text} {options : QueryOptions} {rows : QueryResult}
    {executed : σ} (hexecute : db.execute (.plain script) state = (.ok rows, executed)) :
    ((s.query script options).run db state).1 = .error fault
      ↔ options.unrecorded = false
        ∧ ((recordEvents options.temporary s.begun (s.eventsOf script)).run db executed).1
          = .error fault := by
  unfold query
  rw [run_bind_of_ok (run_executing db (.plain script) state), hexecute]
  cases hskip : options.unrecorded with
  | true => simp
  | false =>
    simp only [Bool.false_eq_true, if_false, true_and]
    rw [run_bind_eq_error_iff, postProcess_run_eq_error_iff]
    simp

theorem recordStatement_run_eq_error_iff {script : Text} :
    ((s.recordStatement script).run db state).1 = .error fault
      ↔ ((recordEvents true s.begun (s.eventsOf script)).run db state).1 = .error fault := by
  unfold recordStatement
  rw [run_bind_eq_error_iff, postProcess_run_eq_error_iff]
  simp

/-- Recording an executed script comes to an event that cannot be followed. -/
def BreaksOff (s : Session) (db : Database σ) (temporary : Bool) (days : Int) (script : Text)
    (executed : σ) (fault : Fault) : Prop :=
  ∃ front event rest reached found, s.eventsOf script = front ++ event :: rest
    ∧ (recordEvents temporary s.begun front).run db executed = (.ok reached, found)
    ∧ CannotFollow db s temporary days found event fault

/-- With a clock in the calendar, it breaks off at the first event that cannot be followed. -/
theorem breaksOff_iff {script : Text} {executed : σ}
    (hclock : ∀ state, Calendar.includes (db.readClock state).1.day = true)
    (hdays : 0 ≤ s.context.expirationDays) :
    ((recordEvents temporary s.begun (s.eventsOf script)).run db executed).1 = .error fault
      ↔ BreaksOff s db temporary s.context.expirationDays script executed fault := by
  have hbegun : ∀ (found : σ) (event : TableEvent),
      CannotFollow db s.begun temporary s.context.expirationDays found event fault
        ↔ CannotFollow db s temporary s.context.expirationDays found event fault :=
    fun _ _ => cannotFollow_iff_of_context rfl
  have hrecord : ((recordEvents temporary s.begun (s.eventsOf script)).run db executed).1
      = .error fault ↔ _ := recordEvents_run_eq_error_iff hclock hdays
  rw [hrecord]
  simp only [BreaksOff, ← hbegun]
  exact Iff.rfl

/-- Nothing stops recording if no expiry lies beyond the calendar and no table is renamed. -/
theorem not_breaksOff {script : Text} {days : Int} {executed : σ}
    (hin : ∀ state, (db.readClock state).1.day + days ≤ Calendar.lastDay)
    (hrenames : ∀ old new, .renamed old new ∉ s.eventsOf script) :
    ¬BreaksOff s db temporary days script executed fault := by
  rintro ⟨front, event, rest, reached, found, hevents, -, hcannot⟩
  cases hcannot with
  | expiry _ _ hbeyond => exact absurd (hin found) (Int.not_le.mpr hbeyond)
  | @index old new =>
    refine hrenames old new ?_
    rw [hevents]
    exact List.mem_append_right _ List.mem_cons_self

end Session

/-- **When recording an executed script breaks off.**  Take any settings that an environment
    makes and any session that has its context from them, whatever it was asked for before,
    and a database whose clock keeps to the calendar.  A query whose script was executed, and
    the recording of a script that was executed elsewhere, break off if and only if they are
    to be recorded and come to an event that cannot be followed: a loggable table would expire
    behind the last day of the calendar, or the old name of a table is found inside a character
    of an index name.  So they end in an answer if no expiry lies behind that day and no table
    is renamed. -/
theorem recording_breaks_off_iff {env : Environment} {settings : Settings} {c : SessionContext}
    {database : Dialect} {db : Database σ} {s₀ s : Session} {initial opened left : σ}
    {turns : List (Turn σ)} (hload : Settings.load env = .ok settings)
    (hcontext : settings.context = .ok c)
    (hopen : (Session.openWith database c).run db initial = (.ok (.ok s₀), opened))
    (history : History db s₀ opened turns s left)
    (hclock : ∀ state, Calendar.includes (db.readClock state).1.day = true) (script : Text) :
    (∀ options rows found executed, db.execute (.plain script) found = (.ok rows, executed) →
        ∀ fault, ((s.query script options).run db found).1 = .error fault
          ↔ options.unrecorded = false
            ∧ s.BreaksOff db options.temporary settings.expirationDays script executed fault)
      ∧ (∀ executed fault, ((s.recordStatement script).run db executed).1 = .error fault
          ↔ s.BreaksOff db true settings.expirationDays script executed fault)
      ∧ ((∀ state, (db.readClock state).1.day + settings.expirationDays ≤ Calendar.lastDay) →
        (∀ old new, .renamed old new ∉ s.eventsOf script) →
          (∀ options rows found executed, db.execute (.plain script) found = (.ok rows, executed) →
            ∃ answer final, (s.query script options).run db found = (.ok answer, final))
          ∧ ∀ executed, ∃ answer final,
            (s.recordStatement script).run db executed = (.ok answer, final)) := by
  -- the session still has the days of the settings, whatever it did meanwhile, and these are not
  -- negative
  have hdays : s.context.expirationDays = settings.expirationDays := by
    obtain ⟨schema, rfl⟩ := Session.openWith_run hopen
    rw [history.carriesOn.context]
    exact Settings.expirationDays_of_context hcontext
  have hnonneg : 0 ≤ s.context.expirationDays := hdays ▸ Settings.expirationDays_nonneg hload
  rw [← hdays]
  have hquery : ∀ options rows found executed,
      db.execute (.plain script) found = (.ok rows, executed) → ∀ fault,
        ((s.query script options).run db found).1 = .error fault
          ↔ options.unrecorded = false
            ∧ s.BreaksOff db options.temporary s.context.expirationDays script executed fault := by
    intro options rows found executed hexecute fault
    rw [Session.query_run_eq_error_iff hexecute, Session.breaksOff_iff hclock hnonneg]
  have hrecord : ∀ executed fault, ((s.recordStatement script).run db executed).1 = .error fault
      ↔ s.BreaksOff db true s.context.expirationDays script executed fault := by
    intro executed fault
    rw [Session.recordStatement_run_eq_error_iff, Session.breaksOff_iff hclock hnonneg]
  refine ⟨hquery, hrecord, fun hin hrenames => ⟨?_, ?_⟩⟩
  · intro options rows found executed hexecute
    refine exists_run_eq_ok_iff.mpr fun fault hfault => ?_
    have hbroken := ((hquery options rows found executed hexecute fault).mp hfault).2
    exact Session.not_breaksOff (fun state => hdays ▸ hin state) hrenames hbroken
  · intro executed
    refine exists_run_eq_ok_iff.mpr fun fault hfault => ?_
    have hbroken := (hrecord executed fault).mp hfault
    exact Session.not_breaksOff (fun state => hdays ▸ hin state) hrenames hbroken

/-! ## §5. A month, and longer than the calendar -/

namespace FarExpiry

def environment (days : Text) : Environment :=
  .ofList [("DB_USER".toList, "alice".toList), ("TRACKER_EXPIRATION_DAYS".toList, days),
    ("TRACKER_DEFAULT_SCHEMA".toList, "public".toList),
    ("TRACKER_CLEAN_LOGS_ON_OPEN".toList, "no".toList)]

def settings (days : Int) : Settings where
  url := "postgresql://localhost/postgres".toList
  dialectName := "pg".toList
  dialect := .pg
  user := "alice".toList
  timeoutSeconds := 300
  expirationDays := days
  archiveSchema := "archive".toList
  archiveIsPermanent := true
  cleansLogsOnOpen := false
  defaultSchema := "public".toList
  logLevel := "info".toList

def context (days : Int) : SessionContext :=
  { PlainDatabase.context "public".toList with expirationDays := days }

def session (days : Int) : Session := ⟨context days, "public".toList, .empty, .idle⟩

def createT : Text := "CREATE TABLE t (id int)".toList

/-- An environment that asks for thirty days. -/
theorem load_month : Settings.load (environment "30".toList) = .ok (settings 30) := by
  decide +kernel

theorem openWith_context (days : Int) :
    (Session.openWith .pg (context days)).run PlainDatabase.database []
      = (.ok (.ok (session days)), []) := rfl

theorem classify_createT :
    Script.classify .pg "public".toList createT
      = .ok ⟨[.created (.inSchema "public".toList "t".toList)]⟩ := by decide +kernel

/-- The one event of the script, whatever the session. -/
theorem eventsOf_createT (days : Int) :
    (session days).eventsOf createT = [.created (.inSchema "public".toList "t".toList)] := by
  have hclassify : Script.classify (session days).dialect (session days).defaultSchema createT = _ :=
    classify_createT
  rw [Session.eventsOf, hclassify]

end FarExpiry

open FarExpiry in
/-- Tables that expire in a month are logged without a break. -/
theorem recording_ends_for_a_month :
    Settings.load (environment "30".toList) = .ok (settings 30)
      ∧ (∃ answer final, ((session 30).query createT .standard).run PlainDatabase.database []
        = (.ok answer, final))
      ∧ ∀ executed fault, ¬(session 30).BreaksOff PlainDatabase.database true 30 createT executed
        fault := by
  have hcontext : (settings 30).context = .ok (context 30) := by decide +kernel
  have hepoch : Calendar.includes 0 = true ∧ 0 + 30 ≤ Calendar.lastDay := by decide +kernel
  have hclock : ∀ tables, Calendar.includes (PlainDatabase.database.readClock tables).1.day = true :=
    fun _ => hepoch.1
  obtain ⟨-, hrecord, hends⟩ := recording_breaks_off_iff load_month hcontext (openWith_context 30)
    .start hclock createT
  have hrenames : ∀ old new, .renamed old new ∉ (session 30).eventsOf createT := by
    rw [eventsOf_createT]
    exact fun old new h => nomatch List.mem_singleton.mp h
  have hin : ∀ tables, (PlainDatabase.database.readClock tables).1.day + 30 ≤ Calendar.lastDay :=
    fun _ => hepoch.2
  obtain ⟨hquery, hrecorded⟩ := hends hin hrenames
  refine ⟨load_month, hquery .standard ⟨[]⟩ [] ["public.t".toList] rfl, ?_⟩
  intro executed fault hbroken
  obtain ⟨answer, final, hrun⟩ := hrecorded executed
  have herror := (hrecord executed fault).mpr hbroken
  rw [hrun] at herror
  exact nomatch herror

open FarExpiry in
/-- A number of days that is loaded and fits no calendar: the table is created, and the query
    breaks off before it is logged. -/
theorem recording_breaks_off_beyond_calendar :
    Settings.load (environment "100000000001".toList) = .ok (settings 100000000001)
      ∧ (settings 100000000001).context = .ok (context 100000000001)
      ∧ (Session.openWith .pg (context 100000000001)).run PlainDatabase.database []
        = (.ok (.ok (session 100000000001)), [])
      ∧ PlainDatabase.database.execute (.plain createT) [] = (.ok ⟨[]⟩, ["public.t".toList])
      ∧ (((session 100000000001).query createT .standard).run PlainDatabase.database []).1
        = .error .expiryOutOfRange
      ∧ (((session 100000000001).recordStatement createT).run PlainDatabase.database []).1
        = .error .expiryOutOfRange := by
  have hexecute : PlainDatabase.database.execute (.plain createT) []
      = (.ok ⟨[]⟩, ["public.t".toList]) := rfl
  refine ⟨by decide +kernel, by decide +kernel, openWith_context _, hexecute, ?_, ?_⟩
  · rw [Session.query_run_eq_error_iff hexecute, eventsOf_createT]
    exact ⟨rfl, rfl⟩
  · rw [Session.recordStatement_run_eq_error_iff, eventsOf_createT]
    rfl

end TableLedger
