/-
  TableLedger.Proofs.Session.History — everything that a session is asked for.

  A session executes scripts, is told of scripts, cleans up, housekeeps its
  logs and forgets.  A history is a sequence of such requests to one session
  on one database, in any order.  Between two requests the database may change
  by itself; each turn of a history keeps what the database was like when the
  request before it was done and when it came, so a statement about histories
  can say what it assumes of those changes.

  Main statements:
    • `Session.serve_carriesOn` — no request changes what a session was opened
      with, or lists a table twice,
    • `History.carriesOn` — so no history does,
    • `History.upholds` — a history leaves true what its turns do.
-/

import TableLedger.Proofs.Session.Pruning
import TableLedger.Proofs.Session.Run

namespace TableLedger

open Dialogue

/-! ## §1. Requests -/

/-- What a session may be asked for. -/
inductive Request where
  /-- Execute a script and record it. -/
  | query (sql : Text) (options : QueryOptions)
  /-- Record a script that was executed elsewhere. -/
  | record (script : Text)
  /-- Drop every table that the session created. -/
  | cleanup
  /-- Housekeep the logs. -/
  | cleanLogs
  /-- Forget every table. -/
  | reset
  deriving DecidableEq, Repr

namespace Session

/-- Do what is asked for and go on with the session after it.  What is answered
    to the caller is left out. -/
def serve (s : Session) : Request → Dialogue Session
  | .query sql options => do return (← s.query sql options).2
  | .record script => do return (← s.recordStatement script).2
  | .cleanup => do return (← s.cleanup).2
  | .cleanLogs => do
    discard s.cleanLogs
    return s
  | .reset => return s.reset

/-- A session carries on as another one: it keeps what it was opened with, and
    lists no table twice if it did not before. -/
structure CarriesOn (s after : Session) : Prop where
  context : after.context = s.context
  defaultSchema : after.defaultSchema = s.defaultSchema
  nodup_created : s.registry.created.Nodup → after.registry.created.Nodup

theorem carriesOn_refl (s : Session) : s.CarriesOn s := ⟨rfl, rfl, id⟩

theorem CarriesOn.trans {s t u : Session} (h : s.CarriesOn t) (k : t.CarriesOn u) :
    s.CarriesOn u :=
  ⟨k.context.trans h.context, k.defaultSchema.trans h.defaultSchema,
    k.nodup_created ∘ h.nodup_created⟩

theorem CarriesOn.dialect_eq {s after : Session} (h : s.CarriesOn after) :
    after.dialect = s.dialect := by
  rw [dialect, h.context, dialect]

theorem CarriesOn.journal_eq {s after : Session} (h : s.CarriesOn after) :
    after.journal = s.journal := by
  rw [journal, h.context, journal]

/-- Taking events in carries a session on. -/
theorem TakesIn.carriesOn {s after : Session} {events : List TableEvent}
    (h : s.TakesIn events after) : s.CarriesOn after where
  context := h.context
  defaultSchema := h.defaultSchema
  nodup_created hnodup := by
    rw [h.registry.created]
    exact Registry.nodup_created_foldl hnodup events

/-- No request changes what a session was opened with, or lists a table twice. -/
theorem serve_carriesOn {σ : Type} {db : Database σ} {s after : Session} {request : Request}
    {state final : σ} (h : (s.serve request).run db state = (.ok after, final)) :
    s.CarriesOn after := by
  cases request with
  | query sql options =>
    obtain ⟨⟨answer, queried⟩, middle, hquery, hlast⟩ := run_bind_eq_ok h
    simp only [run_pure, Prod.mk.injEq, Except.ok.injEq] at hlast
    obtain ⟨rfl, -⟩ := hlast
    exact (query_run hquery).1.carriesOn
  | record script =>
    obtain ⟨⟨answer, recorded⟩, middle, hrecord, hlast⟩ := run_bind_eq_ok h
    simp only [run_pure, Prod.mk.injEq, Except.ok.injEq] at hlast
    obtain ⟨rfl, -⟩ := hlast
    exact (recordStatement_run hrecord).1.carriesOn
  | cleanup =>
    obtain ⟨⟨count, cleaned⟩, middle, hcleanup, hlast⟩ := run_bind_eq_ok h
    simp only [run_pure, Prod.mk.injEq, Except.ok.injEq] at hlast
    obtain ⟨rfl, -⟩ := hlast
    -- the list starts out empty, and what is put back comes by events
    have hensures : s.cleanup.Ensures ⟨fun _ => True, True⟩ _ :=
      s.cleanup_ensures fun _ _ => trivial
    obtain ⟨events, rfl⟩ := hensures.of_run_eq hcleanup
    exact ⟨rfl, rfl, fun _ => Registry.nodup_created_foldl List.nodup_nil events⟩
  | cleanLogs =>
    obtain ⟨housekept, middle, -, hlast⟩ := run_bind_eq_ok h
    simp only [run_pure, Prod.mk.injEq, Except.ok.injEq] at hlast
    obtain ⟨rfl, -⟩ := hlast
    exact s.carriesOn_refl
  | reset =>
    obtain ⟨rfl, -⟩ : s.reset = after ∧ state = final := by
      simpa [serve, run_pure] using h
    exact ⟨rfl, rfl, fun _ => List.nodup_nil⟩

/-- A query that comes to its end is served. -/
theorem serve_query_run {σ : Type} {db : Database σ} {s after : Session} {sql : Text}
    {options : QueryOptions} {answer : Except Error (Option QueryResult)} {state final : σ}
    (h : (s.query sql options).run db state = (.ok (answer, after), final)) :
    (s.serve (.query sql options)).run db state = (.ok after, final) := by
  unfold serve
  rw [run_bind_of_ok h]
  rfl

theorem serve_record_run {σ : Type} {db : Database σ} {s after : Session} {script : Text}
    {answer : Except Error Classification} {state final : σ}
    (h : (s.recordStatement script).run db state = (.ok (answer, after), final)) :
    (s.serve (.record script)).run db state = (.ok after, final) := by
  unfold serve
  rw [run_bind_of_ok h]
  rfl

end Session

/-! ## §2. Histories -/

/-- One request of a history. -/
structure Turn (σ : Type) where
  /-- The session as the request found it. -/
  session : Session
  /-- The database when the request before was done. -/
  left : σ
  /-- The database when the request came. -/
  found : σ
  request : Request

/-- The turns of a session that starts as `s₀` on a database in `state₀`, with
    the session and the state that they lead to.  Between two turns the database
    may come to any state. -/
inductive History {σ : Type} (db : Database σ) (s₀ : Session) (state₀ : σ) :
    List (Turn σ) → Session → σ → Prop
  | start : History db s₀ state₀ [] s₀ state₀
  | turn {turns : List (Turn σ)} {s after : Session} {left found final : σ} {request : Request}
      (history : History db s₀ state₀ turns s left)
      (step : (s.serve request).run db found = (.ok after, final)) :
      History db s₀ state₀ (turns ++ [⟨s, left, found, request⟩]) after final

namespace History

variable {σ : Type} {db : Database σ} {s₀ s : Session} {state₀ state : σ} {turns : List (Turn σ)}

/-- The session at the end of a history carries on the one at its start. -/
theorem carriesOn (history : History db s₀ state₀ turns s state) : s₀.CarriesOn s := by
  induction history with
  | start => exact s₀.carriesOn_refl
  | turn history step ih => exact ih.trans (Session.serve_carriesOn step)

/-- A history leaves a property of the database true if what happens between its
    turns does, and every request of its turns does. -/
theorem upholds {holds : σ → Prop} (history : History db s₀ state₀ turns s state)
    (hbetween : ∀ t ∈ turns, holds t.left → holds t.found)
    (hserve : ∀ t ∈ turns, s₀.CarriesOn t.session → holds t.found →
      holds ((t.session.serve t.request).run db t.found).2)
    (hstart : holds state₀) : holds state := by
  induction history with
  | start => exact hstart
  | @turn turns s after left found final request history step ih =>
    have hlast : ⟨s, left, found, request⟩ ∈ turns ++ [⟨s, left, found, request⟩] :=
      List.mem_append_right _ List.mem_cons_self
    have hleft := ih (fun t ht => hbetween t (List.mem_append_left _ ht))
      (fun t ht => hserve t (List.mem_append_left _ ht))
    have hfinal := hserve _ hlast history.carriesOn (hbetween _ hlast hleft)
    rw [step] at hfinal
    exact hfinal

end History

end TableLedger
