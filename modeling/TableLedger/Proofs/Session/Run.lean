/-
  TableLedger.Proofs.Session.Run — sessions at work.

  A run is a sequence of operations of one session against one database:
  scripts that the session executes, and scripts that it is told of after
  they were executed elsewhere.  Each operation leaves a visit behind, from
  which the events that the session took in can be read off.

  Main statements:
    • `openWith_run` — the session that opening gives,
    • `query_run`, `recordStatement_run` — one operation takes its events
      in and then does bookkeeping only,
    • `Run.takesIn` — a run takes in the events of its visits, in order,
    • `Run.kept` — a run keeps what its scripts and its bookkeeping keep.
-/

import TableLedger.Proofs.Registry
import TableLedger.Proofs.Session.Bookkeeping

namespace TableLedger

open Dialogue

variable {σ : Type}

/-! ## §1. Opening -/

namespace Session

/-- A session that opens has its context, a settled default schema, and nothing
    registered. -/
theorem openWith_run {db : Database σ} {database : Dialect} {c : SessionContext} {s : Session}
    {initial state : σ} (h : (openWith database c).run db initial = (.ok (.ok s), state)) :
    ∃ schema, s = ⟨c, settleSchema c.dialect schema, .empty, .idle⟩ := by
  -- a database of another dialect and a blank user end without a session
  unfold openWith at h
  split at h
  · simp [run_pure] at h
  split at h
  · simp [run_pure] at h
  obtain ⟨chosen, asked, -, h⟩ := run_bind_eq_ok h
  cases chosen with
  | error e => simp [run_pure] at h
  | ok schema =>
    refine ⟨schema, ?_⟩
    simp only at h
    split at h
    · obtain ⟨housekept, middle, -, h⟩ := run_bind_eq_ok h
      simp only [run_pure, Prod.mk.injEq, Except.ok.injEq] at h
      exact h.1.symm
    · simp only [run_pure, Prod.mk.injEq, Except.ok.injEq] at h
      exact h.1.symm

/-! ## §2. Taking events in -/

/-- A session becomes another one by taking events in.  The renames that the
    registry remembers are those of the latest script, so they are left out. -/
structure TakesIn (s : Session) (events : List TableEvent) (after : Session) : Prop where
  context : after.context = s.context
  defaultSchema : after.defaultSchema = s.defaultSchema
  registry : after.registry.Agrees (events.foldl Registry.record s.registry)

theorem takesIn_nil (s : Session) (phase : Phase) : s.TakesIn [] { s with phase := phase } :=
  ⟨rfl, rfl, Registry.agrees_refl _⟩

theorem TakesIn.dialect_eq {s after : Session} {events : List TableEvent}
    (h : s.TakesIn events after) : after.dialect = s.dialect := by
  rw [dialect, h.context, dialect]

/-- Events are taken in one after the other. -/
theorem TakesIn.append {s t u : Session} {events more : List TableEvent}
    (h : s.TakesIn events t) (k : t.TakesIn more u) : s.TakesIn (events ++ more) u := by
  refine ⟨k.context.trans h.context, k.defaultSchema.trans h.defaultSchema, ?_⟩
  rw [List.foldl_append]
  exact k.registry.trans (h.registry.foldl_record more)

/-- The phase of a session plays no part in what it takes in. -/
theorem TakesIn.withPhase {s after : Session} {events : List TableEvent} {before phase : Phase}
    (h : { s with phase := before }.TakesIn events after) :
    s.TakesIn events { after with phase := phase } :=
  ⟨h.context, h.defaultSchema, h.registry⟩

/-- Behind a script, its events are taken in. -/
theorem afterScript_takesIn (s : Session) (script : Text) :
    s.TakesIn (s.eventsOf script) (s.afterScript script) := by
  unfold eventsOf afterScript
  cases Script.classify s.dialect s.defaultSchema script with
  | error e => exact ⟨rfl, rfl, Registry.agrees_refl _⟩
  | ok c =>
    refine ⟨rfl, rfl, ?_⟩
    exact (Registry.beginStatement_agrees s.registry).foldl_record c.events

end Session

/-! ## §3. Runs -/

/-- What a session is asked to do in the course of its work. -/
inductive Operation where
  /-- Execute a script and record it. -/
  | query (sql : Text) (options : QueryOptions)
  /-- Record a script that was executed elsewhere. -/
  | record (script : Text)
  deriving DecidableEq, Repr

/-- One operation of a run. -/
structure Visit (σ : Type) where
  /-- The session as the operation found it. -/
  session : Session
  /-- The database before the script was executed. -/
  before : σ
  /-- The database after the script was executed. -/
  executed : σ
  operation : Operation

/-- The events that a session takes in during a visit.  There are none if the
    script failed, is not to be recorded, or cannot be classified. -/
def Visit.events (db : Database σ) (v : Visit σ) : List TableEvent :=
  match v.operation with
  | .record script => v.session.eventsOf script
  | .query sql options =>
    match (db.execute (.plain sql) v.before).1 with
    | .error _ => []
    | .ok _ => if options.unrecorded then [] else v.session.eventsOf sql

/-- The visits of a session that starts as `s₀` on a database in `state₀`, with
    the session and the state that they lead to.  A script that is executed
    elsewhere may take the database to any state. -/
inductive Run (db : Database σ) (s₀ : Session) (state₀ : σ) : List (Visit σ) → Session → σ → Prop
  | start : Run db s₀ state₀ [] s₀ state₀
  | query {visits : List (Visit σ)} {s after : Session} {state final : σ} {sql : Text}
      {options : QueryOptions} {answer : Except Error (Option QueryResult)}
      (run : Run db s₀ state₀ visits s state)
      (step : (s.query sql options).run db state = (.ok (answer, after), final)) :
      Run db s₀ state₀
        (visits ++ [⟨s, state, (db.execute (.plain sql) state).2, .query sql options⟩]) after final
  | record {visits : List (Visit σ)} {s after : Session} {state executed final : σ}
      {script : Text} {answer : Except Error Classification}
      (run : Run db s₀ state₀ visits s state)
      (step : (s.recordStatement script).run db executed = (.ok (answer, after), final)) :
      Run db s₀ state₀ (visits ++ [⟨s, state, executed, .record script⟩]) after final

/-! ## §4. One operation -/

namespace Session

variable {db : Database σ} {s after : Session}

/-- Recording takes the events of the script in, and what it does to the
    database is bookkeeping. -/
theorem postProcess_run {script : Text} {temporary : Bool} {state final : σ}
    {answer : Except Error Classification}
    (h : (s.postProcess script temporary).run db state = (.ok (answer, after), final)) :
    s.TakesIn (s.eventsOf script) after
      ∧ ∀ holds, Kept db (IsBookkeeping s.dialect) holds → holds state → holds final := by
  have hensures := s.postProcess_ensures script temporary
  have hvalue := (hensures.of_run_eq h).2
  refine ⟨?_, fun holds hkept hstate => ?_⟩
  · show s.TakesIn (s.eventsOf script) (answer, after).2
    rw [hvalue]
    exact s.afterScript_takesIn script
  · have hfinal := (hensures.run hkept hstate).1
    rw [h] at hfinal
    exact hfinal

/-- The same when something is made of the answer and the session is idle again. -/
theorem postProcess_then_idle_run {β : Type} {script : Text} {temporary : Bool} {state final : σ}
    {result : β} {onward : Except Error Classification × Session → Dialogue (β × Session)}
    (honward : ∀ recorded, ∃ b, onward recorded = pure (b, { recorded.2 with phase := .idle }))
    (h : (postProcess { s with phase := .postProcessing } script temporary >>= onward).run db state
      = (.ok (result, after), final)) :
    s.TakesIn (s.eventsOf script) after
      ∧ ∀ holds, Kept db (IsBookkeeping s.dialect) holds → holds state → holds final := by
  obtain ⟨⟨answer, recorded⟩, middle, hpost, hlast⟩ := run_bind_eq_ok h
  obtain ⟨b, hb⟩ := honward (answer, recorded)
  rw [hb] at hlast
  simp only [run_pure, Prod.mk.injEq, Except.ok.injEq] at hlast
  obtain ⟨⟨-, rfl⟩, rfl⟩ := hlast
  obtain ⟨htakes, hkeeps⟩ := postProcess_run hpost
  exact ⟨htakes.withPhase, hkeeps⟩

/-- Recording a script takes its events in and does bookkeeping only. -/
theorem recordStatement_run {script : Text} {state final : σ}
    {answer : Except Error Classification}
    (h : (s.recordStatement script).run db state = (.ok (answer, after), final)) :
    s.TakesIn (s.eventsOf script) after
      ∧ ∀ holds, Kept db (IsBookkeeping s.dialect) holds → holds state → holds final := by
  unfold recordStatement at h
  exact postProcess_then_idle_run (fun _ => ⟨_, rfl⟩) h

/-- A query takes the events of its visit in, and what it does after executing
    its script is bookkeeping. -/
theorem query_run {sql : Text} {options : QueryOptions} {state final : σ}
    {answer : Except Error (Option QueryResult)}
    (h : (s.query sql options).run db state = (.ok (answer, after), final)) :
    s.TakesIn
        (Visit.events db ⟨s, state, (db.execute (.plain sql) state).2, .query sql options⟩) after
      ∧ ∀ holds, Kept db (IsBookkeeping s.dialect) holds →
          holds (db.execute (.plain sql) state).2 → holds final := by
  -- the three ways through a query: it fails, it is not to be recorded, it is recorded
  unfold query at h
  rw [run_bind_of_ok (run_executing db (.plain sql) state)] at h
  cases hexecuted : (db.execute (.plain sql) state).1 with
  | error e =>
    simp only [hexecuted, run_pure, Prod.mk.injEq, Except.ok.injEq] at h
    obtain ⟨⟨-, rfl⟩, rfl⟩ := h
    simp only [Visit.events, hexecuted]
    exact ⟨s.takesIn_nil .idle, fun holds _ hstate => hstate⟩
  | ok rows =>
    simp only [hexecuted] at h
    simp only [Visit.events, hexecuted]
    split at h
    · next hskip =>
      simp only [run_pure, Prod.mk.injEq, Except.ok.injEq] at h
      obtain ⟨⟨-, rfl⟩, rfl⟩ := h
      rw [if_pos hskip]
      exact ⟨s.takesIn_nil .idle, fun holds _ hstate => hstate⟩
    · next hrecorded =>
      rw [if_neg hrecorded]
      exact postProcess_then_idle_run (fun _ => ⟨_, rfl⟩) h

/-- The session that a script is recorded in. -/
def begun (s : Session) : Session :=
  { s with registry := s.registry.beginStatement, phase := .postProcessing }

/-- A script that can be classified is recorded if its events can be. -/
theorem postProcess_run_of_classify {script : Text} {temporary : Bool} {c : Classification}
    {state final : σ} (hclassify : Script.classify s.dialect s.defaultSchema script = .ok c)
    (hevents : (recordEvents temporary s.begun c.events).run db state = (.ok after, final)) :
    (postProcess { s with phase := .postProcessing } script temporary).run db state
      = (.ok (.ok c, after), final) := by
  unfold postProcess
  simp only [dialect] at hclassify ⊢
  simp only [hclassify]
  exact run_bind_of_ok hevents

/-- A script that was executed elsewhere ends well if its events do. -/
theorem recordStatement_run_of_classify {script : Text} {c : Classification} {state final : σ}
    (hclassify : Script.classify s.dialect s.defaultSchema script = .ok c)
    (hevents : (recordEvents true s.begun c.events).run db state = (.ok after, final)) :
    (s.recordStatement script).run db state = (.ok (.ok c, { after with phase := .idle }), final) := by
  unfold recordStatement
  rw [run_bind_of_ok (postProcess_run_of_classify hclassify hevents)]
  rfl

/-- A query whose script is executed ends well if its events do. -/
theorem query_run_of_classify {sql : Text} {options : QueryOptions} {rows : QueryResult}
    {c : Classification} {state executed final : σ}
    (hexecute : db.execute (.plain sql) state = (.ok rows, executed))
    (hrecorded : options.unrecorded = false)
    (hclassify : Script.classify s.dialect s.defaultSchema sql = .ok c)
    (hevents : (recordEvents options.temporary s.begun c.events).run db executed
      = (.ok after, final)) :
    (s.query sql options).run db state
      = (.ok (.ok (some rows), { after with phase := .idle }), final) := by
  unfold query
  rw [run_bind_of_ok (run_executing db (.plain sql) state)]
  simp only [hexecute, hrecorded, Bool.false_eq_true, if_false]
  rw [run_bind_of_ok (postProcess_run_of_classify hclassify hevents)]
  rfl

end Session

/-! ## §5. Whole runs -/

namespace Run

variable {db : Database σ} {s₀ s : Session} {state₀ state : σ} {visits : List (Visit σ)}

/-- A run takes in the events of its visits, in order. -/
theorem takesIn (run : Run db s₀ state₀ visits s state) :
    s₀.TakesIn (visits.flatMap (Visit.events db)) s := by
  induction run with
  | start => exact s₀.takesIn_nil s₀.phase
  | query run step ih =>
    rw [List.flatMap_append, List.flatMap_singleton]
    exact ih.append (Session.query_run step).1
  | record run step ih =>
    rw [List.flatMap_append, List.flatMap_singleton]
    exact ih.append (Session.recordStatement_run step).1

/-- What held before the last script of some visits holds after it, if every script
    keeps it. -/
theorem executed_of_scripts {holds : σ → Prop} {v : Visit σ}
    (hearlier : (∀ w ∈ visits, holds w.before → holds w.executed) → holds v.before)
    (hscripts : ∀ w ∈ visits ++ [v], holds w.before → holds w.executed) : holds v.executed := by
  have hbefore := hearlier fun w hw => hscripts w (List.mem_append_left _ hw)
  exact hscripts v (List.mem_append_right _ List.mem_cons_self) hbefore

/-- A run leaves a property of the database true if every script of the run and
    all bookkeeping do. -/
theorem kept {holds : σ → Prop} (run : Run db s₀ state₀ visits s state)
    (hkept : Kept db (IsBookkeeping s₀.dialect) holds)
    (hscripts : ∀ v ∈ visits, holds v.before → holds v.executed) (hstart : holds state₀) :
    holds state := by
  -- the session changes in the course of the run, but its dialect does not
  induction run with
  | start => exact hstart
  | query run step ih =>
    rw [← run.takesIn.dialect_eq] at hkept
    exact (Session.query_run step).2 _ hkept (executed_of_scripts ih hscripts)
  | record run step ih =>
    rw [← run.takesIn.dialect_eq] at hkept
    exact (Session.recordStatement_run step).2 _ hkept (executed_of_scripts ih hscripts)

end Run

end TableLedger
