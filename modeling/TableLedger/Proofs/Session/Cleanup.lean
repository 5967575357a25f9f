/-
  TableLedger.Proofs.Session.Cleanup — which tables a cleanup takes away.

  A cleanup drops what the registry lists as created.  The registry knows
  scripts only, not the catalog: a script that creates a table unless it is
  there lists a table that the session may not have made.  So what survives
  a cleanup is told by the events of the run, over a database whose catalog
  answers truthfully (`TruthfulCatalog`).

  Main statements:
    • `Session.cleanup_run` — a cleanup never breaks off, and the tables
      that are gone afterwards are those that it dropped,
    • `Run.holds_cleanup_iff` — a table that was there before the first
      script of a session, and that its scripts spared, survives if and
      only if the cleanup drops no listed table of that name.
-/

import Mathlib.Control.Monad.Basic
import TableLedger.Proofs.Session.Run
import TableLedger.Proofs.Session.TruthfulCatalog

namespace TableLedger

open Dialogue

variable {σ τ : Type}

/-! ## §1. Dropping one table -/

namespace Session

variable {db : Database σ} {holds : σ → τ → Prop} {named : TableRef → τ}

/-- Forgetting a table ends, and no table comes or goes meanwhile. -/
theorem forgetLogged_run (s : Session) (hdb : TruthfulCatalog db s.dialect holds named)
    (table : TableRef) (state : σ) :
    ∃ final, (s.forgetLogged table).run db state = (.ok (), final)
      ∧ ∀ x, holds final x ↔ holds state x := by
  have hensures := s.forgetLogged_ensures table
  obtain ⟨⟨⟩, hok⟩ := hensures.run_ok not_false state
  refine ⟨((s.forgetLogged table).run db state).2, Prod.ext hok rfl, fun x => ?_⟩
  have hkept : Kept db (rowDeletions s.dialect).statements
      fun state' => (holds state' x ↔ holds state x) := hdb.kept_rowDeletion x (holds state x)
  have hstart : (fun state' => (holds state' x ↔ holds state x)) state := Iff.rfl
  exact (hensures.run hkept hstart).1

/-- Dropping a table if it is there ends; only that table may be gone afterwards,
    and it is unless the drop failed. -/
theorem dropIfPresent_run (s : Session) (hdb : TruthfulCatalog db s.dialect holds named)
    (table : TableRef) (state : σ) :
    ∃ outcome final, (s.dropIfPresent table).run db state = (.ok outcome, final)
      ∧ (∀ x, holds final x ↔ holds state x ∧ (outcome = .dropped → named table ≠ x))
      ∧ (DropsSucceed db s.dialect → ¬holds final (named table)) := by
  unfold dropIfPresent
  rw [run_bind_of_ok (run_lookingUp db table state)]
  have hsame := hdb.lookUp_holds table state
  split
  · -- the lookup says that the table is gone
    next hfalse =>
    refine ⟨.gone, (db.lookUp table state).2, rfl, fun x => ?_, fun _ h => ?_⟩
    · rw [hsame]
      simp
    · have htrue := (hdb.lookUp_answer table state false hfalse).mpr ((hsame _).mp h)
      exact absurd htrue Bool.false_ne_true
  · -- the table is there, or the lookup failed: either way dropping it is tried
    rw [run_bind_of_ok (run_executing db _ _)]
    generalize hlooked : (db.lookUp table state).2 = looked at hsame ⊢
    cases hdrop : (db.execute (Catalog.dropIfExists s.dialect table) looked).1 with
    | ok answer =>
      have hgone := fun x => hdb.drop_ok table looked answer x hdrop
      refine ⟨.dropped, _, rfl, fun x => ?_, fun _ h => ?_⟩
      · rw [hgone x, hsame x]
        simp
      · exact ((hgone _).mp h).2 rfl
    | error e =>
      have hkept := fun x => hdb.drop_error table looked e x hdrop
      refine ⟨if e.isMissingTable then .gone else .kept, _, rfl, fun x => ?_, fun hsucceed => ?_⟩
      · rw [hkept x, hsame x]
        split
        · simp
        · simp
      · obtain ⟨answer, hanswer⟩ := hsucceed table looked
        rw [hdrop] at hanswer
        injection hanswer

/-! ## §2. Dropping tables in turn -/

/-- The outcome of dropping the listed tables: those of `gone` were dropped, in
    order, and no table is gone for any other reason. -/
structure Drops (db : Database σ) (holds : σ → τ → Prop) (named : TableRef → τ) (s : Session)
    (state : σ) (listed gone : List TableRef) (after : Session) (final : σ) : Prop where
  sublist : gone.Sublist listed
  dropped : after.registry.dropped = s.registry.dropped ++ gone
  holds_iff : ∀ x, holds final x ↔ holds state x ∧ ∀ r ∈ gone, named r ≠ x
  absent : DropsSucceed db s.dialect → ∀ r ∈ listed, ¬holds final (named r)

variable {s t after : Session} {state middle final : σ} {table : TableRef}
  {listed gone : List TableRef}

/-- A table that was dropped comes before what the rest of the list comes to. -/
theorem Drops.cons_dropped (hcontext : t.context = s.context)
    (hdropped : t.registry.dropped = s.registry.dropped ++ [table])
    (hmiddle : ∀ x, holds middle x ↔ holds state x ∧ named table ≠ x)
    (h : Drops db holds named t middle listed gone after final) :
    Drops db holds named s state (table :: listed) (table :: gone) after final where
  sublist := h.sublist.cons_cons table
  dropped := by rw [h.dropped, hdropped, List.append_assoc, List.singleton_append]
  holds_iff x := by
    rw [h.holds_iff, hmiddle, List.forall_mem_cons, and_assoc]
  absent hsucceed r hr := by
    obtain rfl | hr := List.mem_cons.mp hr
    · intro hfinal
      exact ((hmiddle _).mp ((h.holds_iff _).mp hfinal).1).2 rfl
    · rw [dialect, ← hcontext] at hsucceed
      exact h.absent hsucceed r hr

/-- A table that was not dropped leaves what the rest of the list comes to. -/
theorem Drops.cons_spared (hmiddle : ∀ x, holds middle x ↔ holds state x)
    (habsent : DropsSucceed db s.dialect → ¬holds middle (named table))
    (h : Drops db holds named s middle listed gone after final) :
    Drops db holds named s state (table :: listed) gone after final where
  sublist := h.sublist.cons table
  dropped := h.dropped
  holds_iff x := by rw [h.holds_iff, hmiddle]
  absent hsucceed r hr := by
    obtain rfl | hr := List.mem_cons.mp hr
    · intro hfinal
      exact habsent hsucceed ((h.holds_iff _).mp hfinal).1
    · exact h.absent hsucceed r hr

/-- Dropping tables in turn ends, and counts those that it dropped. -/
theorem dropEach_run (listed : List TableRef) (s : Session)
    (hdb : TruthfulCatalog db s.dialect holds named) (state : σ) :
    ∃ kept after gone final,
      (s.dropEach listed).run db state = (.ok (gone.length, kept, after), final)
        ∧ Drops db holds named s state listed gone after final := by
  induction listed generalizing s state with
  | nil =>
    refine ⟨[], s, [], state, rfl, List.Sublist.refl [], (List.append_nil _).symm, ?_, ?_⟩
    · simp
    · simp
  | cons table rest ih =>
    -- whatever becomes of the first table, the rest is dropped from where it leaves the database
    obtain ⟨outcome, tried, hdrop, htried, habsent⟩ := s.dropIfPresent_run hdb table state
    unfold dropEach
    rw [run_bind_of_ok hdrop]
    cases outcome with
    | dropped =>
      obtain ⟨forgotten, hforget, hsame⟩ := s.forgetLogged_run hdb table tried
      obtain ⟨kept, after, gone, final, hrest, hdrops⟩ :=
        ih { s with registry := s.registry.recordDropped table } hdb forgotten
      refine ⟨kept, after, table :: gone, final, ?_, Drops.cons_dropped ?_ ?_ (fun x => ?_) hdrops⟩
      · rw [run_bind_of_ok hforget, run_bind_of_ok hrest]
        rfl
      · rfl
      · rfl
      · rw [hsame, htried]
        simp
    | gone =>
      obtain ⟨forgotten, hforget, hsame⟩ := s.forgetLogged_run hdb table tried
      obtain ⟨kept, after, gone, final, hrest, hdrops⟩ := ih s hdb forgotten
      refine ⟨kept, after, gone, final, ?_, hdrops.cons_spared (fun x => ?_) fun hsucceed => ?_⟩
      · rw [run_bind_of_ok hforget, hrest]
      · rw [hsame, htried]
        simp
      · rw [hsame]
        exact habsent hsucceed
    | kept =>
      obtain ⟨kept, after, gone, final, hrest, hdrops⟩ := ih s hdb tried
      refine ⟨table :: kept, after, gone, final, ?_, hdrops.cons_spared (fun x => ?_) habsent⟩
      · rw [run_bind_of_ok hrest]
        rfl
      · rw [htried]
        simp

/-! ## §3. Cleaning up -/

/-- To put tables back leaves the dropped ones alone. -/
theorem dropped_foldl_recordCreated (tables : List TableRef) (r : Registry) :
    (tables.foldl Registry.recordCreated r).dropped = r.dropped := by
  induction tables generalizing r with
  | nil => rfl
  | cons table rest ih =>
    rw [List.foldl_cons, ih]
    unfold Registry.recordCreated
    split
    · rfl
    · rfl

/-- A cleanup never breaks off.  The tables that are gone afterwards are those
    listed tables that it dropped, which the registry now lists as dropped. -/
theorem cleanup_run (s : Session) (hdb : TruthfulCatalog db s.dialect holds named) (state : σ) :
    ∃ after gone final,
      s.cleanup.run db state = (.ok (gone.length, after), final)
        ∧ Drops db holds named s state s.registry.created gone after final := by
  obtain ⟨kept, after, gone, final, hrest, hdrops⟩ :=
    dropEach_run s.registry.created { s with registry := s.registry.takeCreated.2 } hdb state
  refine ⟨{ after with registry := kept.foldl Registry.recordCreated after.registry },
    gone, final, ?_, hdrops.sublist, ?_, hdrops.holds_iff, hdrops.absent⟩
  · unfold cleanup
    show Dialogue.run db (dropEach { s with registry := s.registry.takeCreated.2 } _ >>= _) _ = _
    rw [run_bind_of_ok hrest]
    rfl
  · show (kept.foldl Registry.recordCreated after.registry).dropped = _
    rw [dropped_foldl_recordCreated, hdrops.dropped]
    rfl

end Session

/-! ## §4. Tables that were there before the session -/

/-- **What survives a cleanup.**  Take a table `x` that was there when the session
    had opened and that no script of the run takes away.  The cleanup ends, and
    `x` is there afterwards if and only if none of the tables that the cleanup
    drops is `x`.  Each of those was introduced by an event of the run; when
    every drop succeeds, they are all the tables that the events left listed. -/
theorem Run.holds_cleanup_iff {db : Database σ} {holds : σ → τ → Prop} {named : TableRef → τ}
    {database : Dialect} {c : SessionContext} {s₀ s : Session} {initial state₀ state : σ}
    {visits : List (Visit σ)} {x : τ} (hdb : TruthfulCatalog db c.dialect holds named)
    (hopen : (Session.openWith database c).run db initial = (.ok (.ok s₀), state₀))
    (run : Run db s₀ state₀ visits s state) (hthere : holds state₀ x)
    (hspared : ∀ v ∈ visits, holds v.before x → holds v.executed x) :
    ∃ after gone final,
      s.cleanup.run db state = (.ok (gone.length, after), final)
        ∧ after.registry.dropped = s.registry.dropped ++ gone
        ∧ (holds final x ↔ ∀ r ∈ gone, named r ≠ x)
        ∧ (∀ r ∈ gone, ∃ v ∈ visits, ∃ event ∈ v.events db, event.Introduces r)
        ∧ (DropsSucceed db c.dialect →
            (holds final x ↔ ∀ r ∈ ((visits.flatMap (Visit.events db)).foldl
              Registry.record .empty).created, named r ≠ x)) := by
  obtain ⟨schema, rfl⟩ := Session.openWith_run hopen
  have htakes := run.takesIn
  have hdialect : s.dialect = c.dialect := htakes.dialect_eq
  have hlisted := htakes.registry.created
  have hstate : holds state x := run.kept (hdb.kept_bookkeeping x) hspared hthere
  rw [← hdialect] at hdb
  obtain ⟨after, gone, final, hrun, hdrops⟩ := s.cleanup_run hdb state
  have hiff : holds final x ↔ ∀ r ∈ gone, named r ≠ x :=
    (hdrops.holds_iff x).trans (and_iff_right hstate)
  refine ⟨after, gone, final, hrun, hdrops.dropped, hiff, fun r hr => ?_, fun hsucceed => ?_⟩
  · -- an empty registry lists nothing, so an event introduced the entry
    have hr := hdrops.sublist.subset hr
    rw [hlisted] at hr
    obtain hempty | ⟨event, hevent, hintro⟩ := Registry.mem_created_foldl hr
    · exact absurd hempty List.not_mem_nil
    · obtain ⟨v, hv, hevent⟩ := List.mem_flatMap.mp hevent
      exact ⟨v, hv, event, hevent, hintro⟩
  · rw [← hdialect] at hsucceed
    constructor
    · -- a listed table is gone, whether it was dropped now or before
      intro hfinal r hr hname
      rw [← hlisted] at hr
      exact hdrops.absent hsucceed r hr (hname ▸ hfinal)
    · intro hnone
      refine hiff.mpr fun r hr => hnone r ?_
      rw [← hlisted]
      exact hdrops.sublist.subset hr

/-! ## §5. Two sessions of a plain database -/

namespace PlainDatabase

/-- A session that lists the given tables as created. -/
def sessionListing (created : List TableRef) : Session :=
  { newSession "public".toList with registry := { Registry.empty with created := created } }

/-- The visit of a new session that executes a script. -/
def firstVisit (sql : Text) (tables : List Text) : Visit (List Text) :=
  ⟨sessionListing [], tables, tablesAfter sql tables, .query sql .permanent⟩

/-- The tables that a session finds. -/
def found : List Text := ["public.t".toList]

/-- The database carries scripts out without rows for an answer. -/
theorem execute_plain (sql : Text) (tables : List Text) :
    database.execute (.plain sql) tables = (.ok ⟨[]⟩, tablesAfter sql tables) := rfl

/-- A new session that classifies a script as a creation lists the table, whatever
    the script did. -/
theorem run_creating {sql : Text} {table : TableRef}
    (hclassify : Script.classify (sessionListing []).dialect (sessionListing []).defaultSchema sql
      = .ok ⟨[.created table]⟩) :
    Run database (sessionListing []) found [firstVisit sql found] (sessionListing [table])
      (tablesAfter sql found) := by
  have hevents : (Session.recordEvents false (sessionListing []).begun [.created table]).run
      database (tablesAfter sql found)
        = (.ok { sessionListing [table] with phase := .postProcessing }, tablesAfter sql found) :=
    rfl
  have step := Session.query_run_of_classify (execute_plain sql found)
    (show QueryOptions.permanent.unrecorded = false from rfl) hclassify hevents
  exact Run.query Run.start step

def createU : Text := "CREATE TABLE u (i int)".toList

def createT : Text := "CREATE TABLE IF NOT EXISTS t (id int)".toList

/-- What the creation of the second table reports. -/
theorem classify_createU :
    Script.classify (sessionListing []).dialect (sessionListing []).defaultSchema createU
      = .ok ⟨[.created (.inSchema "public".toList "u".toList)]⟩ := by decide +kernel

/-- What the creation of the first table reports. -/
theorem classify_createT :
    Script.classify (sessionListing []).dialect (sessionListing []).defaultSchema createT
      = .ok ⟨[.created (.inSchema "public".toList "t".toList)]⟩ := by decide +kernel

end PlainDatabase

open PlainDatabase in
/-- A table that was there survives the cleanup of a session that created another. -/
theorem Run.holds_cleanup_of_creating_another :
    ∃ (after : Session) (gone : List TableRef) (final : List Text),
      (sessionListing [.inSchema "public".toList "u".toList]).cleanup.run database
          (tablesAfter createU found) = (.ok (gone.length, after), final)
        ∧ "public.t".toList ∈ final := by
  -- the script creates another table and touches no other
  have hspared : ∀ v ∈ [firstVisit createU found],
      "public.t".toList ∈ v.before → "public.t".toList ∈ v.executed := by
    intro v hv _
    rw [List.mem_singleton.mp hv]
    decide
  have hevents : [firstVisit createU found].flatMap (Visit.events database)
      = [.created (.inSchema "public".toList "u".toList)] := by
    show Session.eventsOf (sessionListing []) createU ++ [] = _
    unfold Session.eventsOf
    rw [classify_createU]
    rfl
  obtain ⟨after, gone, final, hrun, -, -, -, hiff⟩ := Run.holds_cleanup_iff truthful
    (openWith_context "public".toList found) (run_creating classify_createU)
    List.mem_cons_self hspared
  refine ⟨after, gone, final, hrun, (hiff dropsSucceed).mpr ?_⟩
  intro r hr
  rw [hevents] at hr
  have hr : r ∈ [TableRef.inSchema "public".toList "u".toList] := hr
  rw [List.mem_singleton.mp hr]
  decide

open PlainDatabase in
/-- A session that creates a table unless it is there, where it is, changes nothing,
    and still its cleanup takes the table away. -/
theorem Run.not_holds_cleanup_of_creating_found :
    TruthfulCatalog database .pg (fun tables name => name ∈ tables) (·.qualified .pg)
      ∧ ∃ (visits : List (Visit (List Text))) (s after : Session) (count : Nat)
          (final : List Text),
        (Session.openWith .pg (context "public".toList)).run database found
            = (.ok (.ok (sessionListing [])), found)
          ∧ Run database (sessionListing []) found visits s found
          ∧ (∀ v ∈ visits, v.before = found ∧ v.executed = found)
          ∧ s.cleanup.run database found = (.ok (count, after), final)
          ∧ "public.t".toList ∈ found ∧ "public.t".toList ∉ final := by
  obtain ⟨after, gone, final, hrun, hdrops⟩ := Session.cleanup_run
    (sessionListing [.inSchema "public".toList "t".toList]) truthful found
  have hunchanged : tablesAfter createT found = found := by decide
  have hvisits := run_creating classify_createT
  rw [hunchanged] at hvisits
  refine ⟨truthful, _, _, after, gone.length, final, rfl, hvisits, ?_, hrun,
    List.mem_cons_self, hdrops.absent dropsSucceed _ List.mem_cons_self⟩
  intro v hv
  rw [List.mem_singleton.mp hv]
  exact ⟨rfl, hunchanged⟩

end TableLedger
