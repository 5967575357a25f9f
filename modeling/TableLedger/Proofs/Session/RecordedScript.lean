/-
  TableLedger.Proofs.Session.RecordedScript — what recording a script adds to the registry.

  A script is classified first, and then recorded event by event, each event being
  followed by the logs and the indexes before the next one has its turn.  The renames of
  the script come about twice that way: the classification reads them off its events at
  once, and the registry collects them one at a time.  Both keep one old name for each
  new name, the latest one, at the place where the new name came up first.

  Main statements:
    • `Renames.old?_ofList`, `Renames.map_new_ofList` — which old name is kept for a new
      one, and in which order,
    • `Registry.renames_foldl_record`, `Registry.created_foldl_congr` — what recording
      events makes of the renames, and what the created tables depend on,
    • `Session.recorded_as_classified` — a recorded script leaves the registry that its
      classification says.
-/

import Mathlib.Data.List.Induction
import TableLedger.Proofs.Registry.Upkeep
import TableLedger.Proofs.Script.Mention
import TableLedger.Proofs.Session.RefusedScript

namespace TableLedger

/-! ## §1. Renames in order -/

/-- What the event renames. -/
def TableEvent.rename? : TableEvent → Option Rename
  | .created _ | .dropped _ => none
  | .renamed old new => some ⟨new, old⟩

namespace Renames

/-- Record renames one after the other. -/
def recordAll (renames : Renames) (pairs : List Rename) : Renames :=
  pairs.foldl (fun recorded pair => recorded.record pair.new pair.old) renames

/-- The renames that are left of a list of renames. -/
def ofList (pairs : List Rename) : Renames := recordAll [] pairs

/-- The last pair is the last one to be recorded. -/
theorem ofList_concat (pairs : List Rename) (pair : Rename) :
    ofList (pairs ++ [pair]) = (ofList pairs).record pair.new pair.old := by
  unfold ofList recordAll
  rw [List.foldl_append]
  rfl

/-- The latest rename onto a name counts. -/
theorem old?_record (renames : Renames) (new old t : TableRef) :
    (renames.record new old).old? t = if new = t then some old else renames.old? t := by
  induction renames with
  | nil => by_cases hnew : new = t <;> simp [record, old?, hnew]
  | cons r rest ih =>
    unfold record
    split
    · next hsame =>
      by_cases hnew : new = t
      · simp [old?, hnew]
      · have hother : r.new ≠ t := hsame ▸ hnew
        simp [old?, hnew, hother]
    · next hother =>
      by_cases hhere : r.new = t
      · -- the name looked for is that of the first rename, so it is not the new one
        have hnew : new ≠ t := fun heq => hother (hhere.trans heq.symm)
        simp [old?, hhere, hnew]
      · have hskip : ∀ others : Renames, old? t (r :: others) = old? t others := by
          intro others
          simp [old?, hhere]
        rw [hskip, hskip, ih]

/-- A new name that came up before keeps its place. -/
theorem map_new_record (renames : Renames) (new old : TableRef) :
    (renames.record new old).map Rename.new
      = if new ∈ renames.map Rename.new then renames.map Rename.new
        else renames.map Rename.new ++ [new] := by
  induction renames with
  | nil => rfl
  | cons r rest ih =>
    unfold record
    split
    · next hsame => simp [hsame]
    · next hother =>
      rw [List.map_cons, ih]
      -- the names ahead are other ones
      simp only [List.map_cons, List.mem_cons, Ne.symm hother, false_or]
      split
      · rfl
      · rfl

/-- Of the renames onto a name, the last one counts. -/
theorem old?_ofList (pairs : List Rename) (t : TableRef) :
    (ofList pairs).old? t = old? t pairs.reverse := by
  induction pairs using List.reverseRecOn with
  | nil => rfl
  | append_singleton pairs pair ih =>
    rw [ofList_concat, old?_record, ih, List.reverse_append, List.reverse_singleton,
      List.singleton_append]
    by_cases hnew : pair.new = t <;> simp [old?, hnew]

/-- The new names stand in the order in which they came up first. -/
theorem map_new_ofList (pairs : List Rename) :
    (ofList pairs).map Rename.new = (pairs.map Rename.new).eraseDups := by
  induction pairs using List.reverseRecOn with
  | nil => rfl
  | append_singleton pairs pair ih =>
    rw [ofList_concat, map_new_record, ih, List.map_append, List.map_singleton,
      List.eraseDups_append]
    simp only [List.mem_eraseDups]
    -- the last new name is one more unless it came up before
    by_cases hmem : pair.new ∈ pairs.map Rename.new
    · have hnone : [pair.new].removeAll (pairs.map Rename.new) = [] := by
        simp [List.removeAll, hmem, -List.mem_map]
      rw [if_pos hmem, hnone, List.eraseDups_nil, List.append_nil]
    · have hone : [pair.new].removeAll (pairs.map Rename.new) = [pair.new] := by
        simp [List.removeAll, hmem, -List.mem_map]
      rw [if_neg hmem, hone]
      rfl

end Renames

/-- The renames of a classification are those of its events. -/
theorem Classification.renamed_eq_ofList (c : Classification) :
    c.renamed = Renames.ofList (c.events.filterMap TableEvent.rename?) := by
  unfold renamed Renames.ofList Renames.recordAll
  rw [List.foldl_filterMap]
  congr 1
  funext renames event
  cases event <;> rfl

/-! ## §2. The registry, event by event -/

namespace Registry

/-- Recording events records their renames, in order. -/
theorem renames_foldl_record (events : List TableEvent) (r : Registry) :
    (events.foldl record r).renames
      = r.renames.recordAll (events.filterMap TableEvent.rename?) := by
  induction events generalizing r with
  | nil => rfl
  | cons event rest ih =>
    rw [List.foldl_cons, ih]
    cases event with
    | created table =>
      have hsame : (r.record (.created table)).renames = r.renames := by
        show (r.recordCreated table).renames = r.renames
        unfold recordCreated
        split
        · rfl
        · rfl
      rw [hsame]
      rfl
    | dropped table => rfl
    | renamed old new => rfl

/-- What an event makes of the created tables depends on these only. -/
theorem created_record_congr {r other : Registry} (h : r.created = other.created)
    (event : TableEvent) : (r.record event).created = (other.record event).created := by
  obtain ⟨created, dropped, renames⟩ := r
  obtain ⟨created', dropped', renames'⟩ := other
  obtain rfl : created = created' := h
  cases event with
  | created table =>
    show (recordCreated _ table).created = (recordCreated _ table).created
    unfold recordCreated
    split
    · rfl
    · rfl
  | dropped table => rfl
  | renamed old new => rfl

/-- What is listed as created depends on what was listed before only. -/
theorem created_foldl_congr {r other : Registry} (h : r.created = other.created)
    (events : List TableEvent) :
    (events.foldl record r).created = (events.foldl record other).created := by
  induction events generalizing r other with
  | nil => exact h
  | cons event rest ih => exact ih (created_record_congr h event)

/-- Recording events lists their drops behind the earlier ones. -/
theorem dropped_foldl_record (events : List TableEvent) (r : Registry) :
    (events.foldl record r).dropped
      = r.dropped ++ events.flatMap fun event => (RegistryOperation.record event).drops := by
  have hrun := dropped_run (r := r) (events.map .record) (by simp)
  rw [run, List.foldl_map, List.flatMap_map] at hrun
  exact hrun

end Registry

/-! ## §3. Recorded scripts -/

namespace Session

variable {σ : Type} {db : Database σ} {s after : Session} {script : Text} {c : Classification}
  {state final : σ}

/-- The registry after a script was recorded. -/
theorem registry_of_recordStatement_run
    (h : (s.recordStatement script).run db state = (.ok (.ok c, after), final)) :
    after.registry = c.events.foldl Registry.record s.registry.beginStatement := by
  have hclassify := classify_of_recordStatement_run h
  rw [(recordStatement_outcome h).2]
  unfold afterScript
  rw [hclassify]
  rfl

/-- Up to the renames of the latest script, that is the registry before it with the
    events recorded. -/
theorem agrees_of_recordStatement_run
    (h : (s.recordStatement script).run db state = (.ok (.ok c, after), final)) :
    after.registry.Agrees (c.events.foldl Registry.record s.registry) := by
  rw [registry_of_recordStatement_run h]
  exact (Registry.beginStatement_agrees s.registry).foldl_record c.events

/-- **A script is recorded as it is classified.**  Recording a script, over any database,
    ends in its classification.  The dropped tables are then the earlier ones and behind
    them, in the order of the events, those that were dropped or renamed away.  The
    renames are those of the classification: each new name once, in the order in which it
    came up first, with the old name that was the last one renamed to it.  The created
    tables are what the events, one by one, make of those that were listed before.  And
    recording two scripts, whatever happened to the database meanwhile, leaves the same
    tables listed as recording the events of both at once. -/
theorem recorded_as_classified
    (h : (s.recordStatement script).run db state = (.ok (.ok c, after), final)) :
    Script.classify s.dialect s.defaultSchema script = .ok c
      ∧ after.registry.dropped = s.registry.dropped
        ++ c.events.flatMap (fun event => (RegistryOperation.record event).drops)
      ∧ after.registry.renames = c.renamed
      ∧ c.renamed.map Rename.new
        = ((c.events.filterMap TableEvent.rename?).map Rename.new).eraseDups
      ∧ (∀ t, c.renamed.old? t
        = Renames.old? t (c.events.filterMap TableEvent.rename?).reverse)
      ∧ (∀ r : Registry, r.created = s.registry.created →
        after.registry.created = (c.events.foldl Registry.record r).created)
      ∧ ∀ {script₂ : Text} {c₂ : Classification} {after₂ : Session} {state₂ final₂ : σ},
        (after.recordStatement script₂).run db state₂ = (.ok (.ok c₂, after₂), final₂) →
          after₂.registry.Agrees ((c.events ++ c₂.events).foldl Registry.record s.registry) := by
  have hregistry := registry_of_recordStatement_run h
  have hrenamed := c.renamed_eq_ofList
  refine ⟨classify_of_recordStatement_run h, ?_, ?_, ?_, fun t => ?_, fun r hr => ?_, fun h₂ => ?_⟩
  · rw [(agrees_of_recordStatement_run h).dropped, Registry.dropped_foldl_record]
  · -- the registry starts the script without renames, as the classification does
    rw [hregistry, Registry.renames_foldl_record, hrenamed]
    rfl
  · rw [hrenamed, Renames.map_new_ofList]
  · rw [hrenamed, Renames.old?_ofList]
  · rw [(agrees_of_recordStatement_run h).created]
    exact Registry.created_foldl_congr hr.symm c.events
  · rw [List.foldl_append]
    exact (agrees_of_recordStatement_run h₂).trans
      ((agrees_of_recordStatement_run h).foldl_record _)

end Session

/-! ## §4. Two scripts on two tables of one name -/

namespace JoinedTables

open GrudgingDatabase (database session busy)

def t : TableRef := .inSchema "public".toList "t".toList

def u : TableRef := .inSchema "public".toList "u".toList

def v : TableRef := .inSchema "public".toList "v".toList

def w : TableRef := .inSchema "public".toList "w".toList

/-- A script that renames two tables to one name. -/
def joining : Text :=
  "CREATE TABLE t (i int); ALTER TABLE t RENAME TO u; ".toList
    ++ "ALTER TABLE v RENAME TO u; DROP TABLE w".toList

def joiningEvents : List TableEvent := [.created t, .renamed t u, .renamed v u, .dropped w]

/-- A script that renames a table to its own name, and drops what was dropped. -/
def repeating : Text := "ALTER TABLE u RENAME TO u; DROP TABLE w".toList

def repeatingEvents : List TableEvent := [.renamed u u, .dropped w]

/-- The busy session when the first script was recorded. -/
def joined : Session := { session with registry := ⟨[u], [t, t, v, w], [⟨u, v⟩]⟩ }

/-- And the second one. -/
def repeated : Session := { session with registry := ⟨[u], [t, t, v, w, u, w], [⟨u, u⟩]⟩ }

theorem classify_joining :
    Script.classify busy.dialect busy.defaultSchema joining = .ok ⟨joiningEvents⟩ :=
  Script.classify_eq_ok_iff.mpr
    ⟨[⟨0, 0, .created t⟩, ⟨78, 89, .dropped w⟩, ⟨24, 24, .renamed t u⟩, ⟨51, 51, .renamed v u⟩],
      by decide +kernel, by simp [Script.ofSightings, List.mergeSort, joiningEvents]⟩

theorem classify_repeating :
    Script.classify joined.dialect joined.defaultSchema repeating = .ok ⟨repeatingEvents⟩ :=
  Script.classify_eq_ok_iff.mpr
    ⟨[⟨27, 38, .dropped w⟩, ⟨0, 0, .renamed u u⟩],
      by decide +kernel, by simp [Script.ofSightings, List.mergeSort, repeatingEvents]⟩

/-- The first script, recorded. -/
theorem record_joining :
    (busy.recordStatement joining).run (database joining) ()
      = (.ok (.ok ⟨joiningEvents⟩, joined), ()) := by
  have hevents : (Session.recordEvents true busy.begun joiningEvents).run (database joining) ()
      = (.ok { joined with phase := .postProcessing }, ()) := rfl
  exact Session.recordStatement_run_of_classify classify_joining hevents

/-- And the second one behind it. -/
theorem record_repeating :
    (joined.recordStatement repeating).run (database joining) ()
      = (.ok (.ok ⟨repeatingEvents⟩, repeated), ()) := by
  have hevents : (Session.recordEvents true joined.begun repeatingEvents).run (database joining) ()
      = (.ok { repeated with phase := .postProcessing }, ()) := rfl
  exact Session.recordStatement_run_of_classify classify_repeating hevents

end JoinedTables

open JoinedTables GrudgingDatabase in
/-- The second table that is renamed to a name takes it over, and a table that is renamed
    to its own name is listed as dropped. -/
theorem Session.recorded_as_classified_twice :
    (busy.recordStatement joining).run (database joining) ()
        = (.ok (.ok ⟨joiningEvents⟩, joined), ())
      ∧ (joined.recordStatement repeating).run (database joining) ()
        = (.ok (.ok ⟨repeatingEvents⟩, repeated), ())
      ∧ joined.registry.dropped = busy.registry.dropped ++ [t, v, w]
      ∧ joined.registry.renames = [⟨u, v⟩]
      ∧ joined.registry.created = (joiningEvents.foldl Registry.record busy.registry).created
      ∧ repeated.registry.Agrees
        ((joiningEvents ++ repeatingEvents).foldl Registry.record busy.registry) := by
  obtain ⟨-, hdropped, hrenames, -, -, hcreated, hthen⟩ :=
    recorded_as_classified record_joining
  exact ⟨record_joining, record_repeating, hdropped, hrenames, hcreated _ rfl,
    hthen record_repeating⟩

end TableLedger
