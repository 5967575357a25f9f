/-
  TableLedger.Proofs.Session.RenameElsewhere — renames in other databases.

  A rename that a script writes with a database in front of the old name is
  recorded without it: the event names schema and table only.  The registry then
  looks the old name up, and a reference without a database agrees with tables of
  any database.  So a rename in one database may give its new name to a table that
  the session made in another one.

  Main statements:
    • `Naming.rename_of_event?` — what a rename is recorded as,
    • `History.not_mem_created_rename_iff` — for every session and script, which
      table of another database gives way to a rename.
-/

import Mathlib.Control.Monad.Basic
import TableLedger.Proofs.Script.Mention
import TableLedger.Proofs.Session.History
import TableLedger.Proofs.Session.Outcome

namespace TableLedger

open Dialogue Script

/-! ## §1. Recorded renames -/

/-- A rename is recorded for the table that was read, without its database. -/
theorem Script.Naming.rename_of_event? {n : Naming} {m : Mention} {old new written : TableRef}
    (hevent : n.event? m = .ok (some (.renamed old new)))
    (hwritten : TableRef.parse n.dialect n.defaultSchema m.reference = .ok written) :
    old = written.toLocal := by
  obtain ⟨table, hparse, hchange⟩ := parse_of_event? hevent
  obtain rfl : written = table := by
    rw [hwritten] at hparse
    injection hparse
  cases hkind : m.change with
  | creation => rw [hkind] at hchange; injection hchange
  | drop => rw [hkind] at hchange; injection hchange
  | rename newName =>
    rw [hkind] at hchange
    injection hchange with hold

/-- A reference to a table of one database is not to a table of another. -/
theorem TableRef.sameTable_eq_false_of_database_ne {r s : TableRef} {d e : Text}
    (hr : r.database = some d) (hs : s.database = some e) (hne : e ≠ d) :
    r.sameTable s = false := by
  have hdiffer : agree r.database s.database = false := by
    rw [hr, hs]
    simpa [agree] using hne.symm
  simp [sameTable, hdiffer]

/-- A script whose only event is a rename leaves the registry as that rename does. -/
theorem Session.created_of_recorded_rename {σ : Type} {db : Database σ} {s after : Session}
    {script : Text} {found : Classification} {old new : TableRef} {executed final : σ}
    (hrecord : (s.recordStatement script).run db executed = (.ok (.ok found, after), final))
    (honly : found.events = [.renamed old new]) :
    after.registry.created = (s.registry.recordRenamed old new).created := by
  have hclassify := classify_of_recordStatement_run hrecord
  have htakes := (recordStatement_run hrecord).1.registry.created
  unfold eventsOf at htakes
  rw [hclassify] at htakes
  simp only [honly] at htakes
  exact htakes

/-! ## §2. Which table gives way -/

/-- A table of some database is found by a local reference if and only if that is
    not listed itself and the table is the first of its schema and name. -/
theorem Registry.entryFor?_toLocal_eq_some_iff {created : List TableRef} {written t : TableRef}
    {d : Text} (hdatabase : t.database = some d) :
    entryFor? created written.toLocal = some t
      ↔ written.toLocal ∉ created
        ∧ created.find? (fun u => u.schema == written.schema && u.table == written.table)
          = some t := by
  by_cases hlisted : written.toLocal ∈ created
  · -- what is found is the local reference, which has no database
    have hother : written.toLocal ≠ t := by
      rintro rfl
      injection hdatabase
    simp [entryFor?_of_mem hlisted, hlisted, hother]
  · rw [entryFor?_of_isLocal rfl hlisted]
    exact (and_iff_right hlisted).symm

/-- **Renames elsewhere.**  A session lists a table `t` of the database `d`, and is
    told of a script whose only event is a rename, written with another database
    in front of the old name.  The reference as it is written is not to `t`.  Yet
    `t` gives way to its own copy under the new name if and only if the session
    does not list the old name without a database, `t` is the first table listed
    with that schema and name, and the new name is another one. -/
theorem History.not_mem_created_rename_iff {σ : Type} {db : Database σ} {database : Dialect}
    {c : SessionContext} {s₀ s after : Session} {initial state₀ state executed final : σ}
    {turns : List (Turn σ)} {script d elsewhere : Text} {found : Classification} {m : Mention}
    {t old new written : TableRef}
    (hopen : (Session.openWith database c).run db initial = (.ok (.ok s₀), state₀))
    (history : History db s₀ state₀ turns s state)
    (ht : t ∈ s.registry.created) (hdatabase : t.database = some d)
    (hm : m ∈ mentions c.dialect script)
    (hevent : Naming.event? ⟨c.dialect, s.defaultSchema⟩ m = .ok (some (.renamed old new)))
    (hwritten : TableRef.parse c.dialect s.defaultSchema m.reference = .ok written)
    (helsewhere : written.database = some elsewhere) (hne : elsewhere ≠ d)
    (hrecord : (s.recordStatement script).run db executed = (.ok (.ok found, after), final))
    (honly : found.events.length = 1) :
    t.sameTable written = false
      ∧ (t ∉ after.registry.created
          ↔ (written.toLocal ∉ s.registry.created
              ∧ s.registry.created.find? (fun u => u.schema == written.schema
                  && u.table == written.table) = some t)
            ∧ new.table ≠ t.table)
      ∧ (t ∉ after.registry.created → t.withName new.table ∈ after.registry.created) := by
  obtain ⟨schema, rfl⟩ := Session.openWith_run hopen
  have hcarries := history.carriesOn
  have hdialect : s.dialect = c.dialect := hcarries.dialect_eq
  have hnodup : s.registry.created.Nodup := hcarries.nodup_created List.nodup_nil
  -- the rename of the mention is the one event of the script
  have hclassify := Session.classify_of_recordStatement_run hrecord
  rw [hdialect] at hclassify
  have hmem : .renamed old new ∈ found.events :=
    (mem_events_classify hclassify).mpr ⟨m, hm, hevent⟩
  obtain ⟨event, hfound⟩ := List.length_eq_one_iff.mp honly
  rw [hfound, List.mem_singleton] at hmem
  rw [← hmem] at hfound
  obtain rfl : old = written.toLocal := Naming.rename_of_event? hevent hwritten
  have hgives : t ∉ (s.registry.recordRenamed written.toLocal new).created
      ↔ Registry.entryFor? s.registry.created written.toLocal = some t ∧ new.table ≠ t.table :=
    Registry.not_mem_created_recordRenamed_iff hnodup ht
  rw [Session.created_of_recorded_rename hrecord hfound]
  refine ⟨TableRef.sameTable_eq_false_of_database_ne hdatabase helsewhere hne, ?_, fun hgone => ?_⟩
  · rw [hgives, Registry.entryFor?_toLocal_eq_some_iff hdatabase]
  · exact Registry.mem_created_recordRenamed_of_entryFor? hnodup (hgives.mp hgone).1

/-! ## §3. Two sessions of SQL Server -/

namespace GrudgingDatabase

/-- A user of SQL Server who names the default schema. -/
def serverContext : SessionContext :=
  { SessionContext.ofUser .ms "alice".toList with
    defaultSchema := some "dbo".toList, cleansLogsOnOpen := false }

/-- A session of that user that lists the given tables as created. -/
def listing (created : List TableRef) : Session :=
  ⟨serverContext, "dbo".toList, { Registry.empty with created := created }, .idle⟩

/-- The table `t` of the database `a`. -/
def tableOfA : TableRef := ⟨none, some "a".toList, "dbo".toList, "t".toList⟩

/-- The table `t` of the database `b`. -/
def tableOfB : TableRef := ⟨none, some "b".toList, "dbo".toList, "t".toList⟩

/-- The table `t` of the session's own database. -/
def ownTable : TableRef := .inSchema "dbo".toList "t".toList

def createOfA : Text := "CREATE TABLE a.dbo.t (id int)".toList

def createBoth : Text := "CREATE TABLE a.dbo.t (id int); CREATE TABLE t (id int)".toList

def renameOfB : Text := "EXEC sp_rename 'b.dbo.t', 'u'".toList

/-- The mention of the table that is renamed. -/
def renameMention : Mention := ⟨"sp_rename".toList, 5, 5, "b.dbo.t".toList, .rename "u".toList⟩

/-- What the rename is recorded as. -/
def renameEvent : TableEvent := .renamed ownTable (.inSchema "dbo".toList "u".toList)

theorem openWith_serverContext :
    (Session.openWith .ms serverContext).run (database []) () = (.ok (.ok (listing [])), ()) := by
  rfl

/-- A new session that classifies a script as creations lists the tables. -/
theorem history_creating {script : Text} {tables : List TableRef}
    (hclassify : classify (listing []).dialect (listing []).defaultSchema script
      = .ok ⟨tables.map .created⟩)
    (hevents : (Session.recordEvents true (listing []).begun (tables.map .created)).run
      (database []) () = (.ok { listing tables with phase := .postProcessing }, ())) :
    History (database []) (listing []) () [⟨listing [], (), (), .record script⟩]
      (listing tables) () := by
  have hrecord := Session.recordStatement_run_of_classify hclassify hevents
  exact History.turn History.start (Session.serve_record_run hrecord)

theorem classify_createOfA :
    classify (listing []).dialect (listing []).defaultSchema createOfA
      = .ok ⟨[tableOfA].map .created⟩ := by decide +kernel

theorem classify_createBoth :
    classify (listing []).dialect (listing []).defaultSchema createBoth
      = .ok ⟨[tableOfA, ownTable].map .created⟩ :=
  classify_eq_ok_iff.mpr ⟨[⟨0, 0, .created tableOfA⟩, ⟨31, 31, .created ownTable⟩],
    by decide +kernel, by simp [ofSightings, List.mergeSort]⟩

theorem classify_renameOfB (created : List TableRef) :
    classify (listing created).dialect (listing created).defaultSchema renameOfB
      = .ok ⟨[renameEvent]⟩ := by
  show classify .ms "dbo".toList renameOfB = _
  decide +kernel

theorem mem_mentions_renameOfB : renameMention ∈ mentions .ms renameOfB := by
  have hmentions : mentions .ms renameOfB = [renameMention] := by
    unfold mentions renameMentions RenameForm.word
    decide +kernel
  rw [hmentions]
  exact List.mem_cons_self

theorem parse_renameMention :
    TableRef.parse .ms "dbo".toList renameMention.reference = .ok tableOfB := by decide +kernel

theorem event?_renameMention :
    Naming.event? ⟨.ms, "dbo".toList⟩ renameMention = .ok (some renameEvent) := by
  decide +kernel

/-- The rename is recorded, whatever the session lists. -/
theorem record_renameOfB (created : List TableRef) {after : Session}
    (hevents : (Session.recordEvents true (listing created).begun [renameEvent]).run
      (database []) () = (.ok after, ())) :
    ((listing created).recordStatement renameOfB).run (database []) ()
      = (.ok (.ok ⟨[renameEvent]⟩, { after with phase := .idle }), ()) :=
  Session.recordStatement_run_of_classify (classify_renameOfB created) hevents

end GrudgingDatabase

open GrudgingDatabase in
/-- A session that also lists the table of that name in its own database keeps the
    table of the database `a` when the one of `b` is renamed. -/
theorem History.mem_created_rename_of_own_table :
    ∃ (turns : List (Turn Unit)) (after : Session),
      (Session.openWith .ms serverContext).run (database []) () = (.ok (.ok (listing [])), ())
        ∧ History (database []) (listing []) () turns (listing [tableOfA, ownTable]) ()
        ∧ ((listing [tableOfA, ownTable]).recordStatement renameOfB).run (database []) ()
          = (.ok (.ok ⟨[renameEvent]⟩, after), ())
        ∧ tableOfA ∈ after.registry.created := by
  have history := history_creating classify_createBoth rfl
  have hrecord := record_renameOfB [tableOfA, ownTable] rfl
  obtain ⟨-, hgone, -⟩ := History.not_mem_created_rename_iff openWith_serverContext history
    List.mem_cons_self rfl mem_mentions_renameOfB event?_renameMention parse_renameMention rfl
    (by decide) hrecord rfl
  refine ⟨_, _, openWith_serverContext, history, hrecord, ?_⟩
  exact Classical.byContradiction fun hnot => (hgone.mp hnot).1.1 (by decide)

open GrudgingDatabase in
/-- A session made the table `t` of the database `a`, and is told of a script that
    renames the table `t` of the database `b`.  Afterwards it lists the former under
    the new name of the latter. -/
theorem History.not_mem_created_rename_of_other_database :
    ∃ (turns : List (Turn Unit)) (after : Session),
      (Session.openWith .ms serverContext).run (database []) () = (.ok (.ok (listing [])), ())
        ∧ History (database []) (listing []) () turns (listing [tableOfA]) ()
        ∧ tableOfA ∈ (listing [tableOfA]).registry.created ∧ tableOfA.database = some "a".toList
        ∧ renameMention ∈ mentions .ms renameOfB ∧ renameMention.word = "sp_rename".toList
        ∧ TableRef.parse .ms "dbo".toList renameMention.reference = .ok tableOfB
        ∧ tableOfB.database = some "b".toList
        ∧ ((listing [tableOfA]).recordStatement renameOfB).run (database []) ()
          = (.ok (.ok ⟨[renameEvent]⟩, after), ())
        ∧ tableOfA ∉ after.registry.created
        ∧ after.registry.created = [tableOfA.withName "u".toList] := by
  exact ⟨_, _, openWith_serverContext, history_creating classify_createOfA rfl,
    List.mem_cons_self, rfl, mem_mentions_renameOfB, rfl, parse_renameMention, rfl,
    record_renameOfB [tableOfA] rfl, by decide, rfl⟩

end TableLedger
