/-
  TableLedger.Proofs.Session.KeptTables — the tables that a cleanup keeps listed.

  A cleanup gives each listed table its turn: it looks the table up, drops it unless
  it is gone, and forgets it unless the drop was refused.  A refusal is read: if its
  code or its words say that the table is missing, the table is taken for gone.
  Whether the database meant that is another matter, and where it did not, a table
  that is still there is forgotten.

  Main statements:
    • `dropEach_ends_turns` — the tables that are kept, those that were dropped, and all
      that is said, turn by turn, over any database,
    • `mem_created_cleanup_iff` — over a truthful catalog, which of the tables that
      are still there stay listed.
-/

import TableLedger.Proofs.Session.Cleanup
import TableLedger.Proofs.Session.RefusedScript
import TableLedger.Proofs.Session.RenameElsewhere

namespace TableLedger

open Dialogue

variable {σ τ : Type}

namespace Session

/-! ## §1. The turn of a table -/

/-- What becomes of a table by the answer to its drop. -/
def DropOutcome.ofAnswer : Except StatementError QueryResult → DropOutcome
  | .ok _ => .dropped
  | .error e => if e.isMissingTable then .gone else .kept

/-- What a cleanup does for one table. -/
def dropTurn (s : Session) (table : TableRef) : Dialogue DropOutcome := do
  let outcome ← s.dropIfPresent table
  if outcome ≠ .kept then s.forgetLogged table
  return outcome

variable (s : Session) (db : Database σ)

/-- The answer to the drop of a table.  There is none if the table was not there. -/
def dropAnswer? (turn : Stage TableRef σ) : Option (Except StatementError QueryResult) :=
  match (db.lookUp turn.item turn.found).1 with
  | .ok false => none
  | _ => some (db.execute (Catalog.dropIfExists s.dialect turn.item)
      (db.lookUp turn.item turn.found).2).1

/-- Nothing is dropped that is known not to be there. -/
theorem dropAnswer?_of_absent {turn : Stage TableRef σ}
    (h : (db.lookUp turn.item turn.found).1 = .ok false) : s.dropAnswer? db turn = none := by
  unfold dropAnswer?
  rw [h]

/-- In any other case the drop is tried. -/
theorem dropAnswer?_of_tried {turn : Stage TableRef σ}
    (h : (db.lookUp turn.item turn.found).1 ≠ .ok false) :
    s.dropAnswer? db turn = some (db.execute (Catalog.dropIfExists s.dialect turn.item)
      (db.lookUp turn.item turn.found).2).1 := by
  unfold dropAnswer?
  split
  · next hfalse => exact absurd hfalse h
  · rfl

/-- What becomes of a table in its turn. -/
def outcomeOf (turn : Stage TableRef σ) : DropOutcome :=
  (s.dropAnswer? db turn).elim .gone .ofAnswer

/-- The calls by which a table is examined: it is looked up and, unless it is not
    there, to be dropped. -/
def examination (turn : Stage TableRef σ) : List Exchange :=
  .lookedUp turn.item (db.lookUp turn.item turn.found).1 ::
    ((s.dropAnswer? db turn).map (.executed (Catalog.dropIfExists s.dialect turn.item))).toList

/-- Examining a table ends in what becomes of it. -/
theorem exists_dropIfPresent_ends (turn : Stage TableRef σ) :
    ∃ tried, (s.dropIfPresent turn.item).Ends db turn.found (s.outcomeOf db turn) tried
      (s.examination db turn) := by
  have hlook := ends_lookingUp db turn.item turn.found
  unfold dropIfPresent outcomeOf examination
  by_cases habsent : (db.lookUp turn.item turn.found).1 = .ok false
  · rw [s.dropAnswer?_of_absent db habsent]
    rw [habsent] at hlook ⊢
    exact ⟨_, hlook.bind_pure rfl⟩
  · -- unless the table is known to be gone, dropping it is tried
    rw [s.dropAnswer?_of_tried db habsent]
    have hdrop := ends_executing db (Catalog.dropIfExists s.dialect turn.item)
      (db.lookUp turn.item turn.found).2
    refine ⟨(db.execute (Catalog.dropIfExists s.dialect turn.item)
      (db.lookUp turn.item turn.found).2).2, hlook.bind ?_⟩
    split
    · next hfalse => exact absurd hfalse habsent
    · cases hanswer : (db.execute (Catalog.dropIfExists s.dialect turn.item)
          (db.lookUp turn.item turn.found).2).1 with
      | ok answer =>
        rw [hanswer] at hdrop
        exact hdrop.bind_pure rfl
      | error e =>
        rw [hanswer] at hdrop
        exact hdrop.bind_pure rfl

/-- A table is kept if and only if its drop was refused, and not as missing. -/
theorem outcomeOf_eq_kept_iff {turn : Stage TableRef σ} :
    s.outcomeOf db turn = .kept
      ↔ ∃ e, s.dropAnswer? db turn = some (.error e) ∧ e.isMissingTable = false := by
  unfold outcomeOf
  cases s.dropAnswer? db turn with
  | none => simp
  | some answered =>
    cases answered with
    | ok answer => simp [DropOutcome.ofAnswer]
    | error e => cases hmissing : e.isMissingTable <;> simp [DropOutcome.ofAnswer, hmissing]

/-- What is said and done in a turn: the table is examined and, unless it is kept,
    forgotten. -/
structure TurnEnds (turn : Stage TableRef σ) (tried left : σ) (forgetting : List Exchange) :
    Prop where
  examined : (s.dropIfPresent turn.item).Ends db turn.found (s.outcomeOf db turn) tried
    (s.examination db turn)
  forgotten : s.outcomeOf db turn ≠ .kept →
    (s.forgetLogged turn.item).Ends db tried () left forgetting
  kept : s.outcomeOf db turn = .kept → left = tried ∧ forgetting = []
  ends : (s.dropTurn turn.item).Ends db turn.found (s.outcomeOf db turn) left
    (s.examination db turn ++ forgetting)

/-- Every turn ends in one of the ways. -/
theorem exists_turnEnds (turn : Stage TableRef σ) :
    ∃ tried left forgetting, s.TurnEnds db turn tried left forgetting := by
  obtain ⟨tried, hexamined⟩ := s.exists_dropIfPresent_ends db turn
  by_cases hkept : s.outcomeOf db turn = .kept
  · refine ⟨tried, tried, [], hexamined, fun h => absurd hkept h, fun _ => ⟨rfl, rfl⟩, ?_⟩
    unfold dropTurn
    refine hexamined.bind ?_
    rw [if_neg (not_not_intro hkept)]
    exact ends_pure db _ tried
  · -- forgetting a table ends whatever its log answers
    obtain ⟨⟨⟩, hok⟩ := (s.forgetLogged_ensures turn.item).run_ok not_false tried
    have hforgotten : (s.forgetLogged turn.item).Ends db tried ()
        ((s.forgetLogged turn.item).run db tried).2
        ((s.forgetLogged turn.item).transcript db tried) := ⟨Prod.ext hok rfl, rfl⟩
    refine ⟨tried, _, _, hexamined, fun _ => hforgotten, fun h => absurd h hkept, ?_⟩
    unfold dropTurn
    refine hexamined.bind ?_
    rw [if_pos hkept]
    exact hforgotten.bind_pure rfl

/-! ## §2. All turns -/

/-- The turns of the given tables. -/
def turns (listed : List TableRef) (state : σ) : List (Stage TableRef σ) :=
  stages db s.dropTurn listed state

/-- The number of turns in which a table was dropped. -/
def droppedIn (turns : List (Stage TableRef σ)) : Nat :=
  turns.countP (s.outcomeOf db · = .dropped)

/-- The tables that were kept in their turns, in order. -/
def keptIn (turns : List (Stage TableRef σ)) : List TableRef :=
  (turns.filter (s.outcomeOf db · = .kept)).map Stage.item

/-- The drops are counted turn by turn. -/
theorem droppedIn_cons (turn : Stage TableRef σ) (rest : List (Stage TableRef σ)) :
    s.droppedIn db (turn :: rest)
      = s.droppedIn db rest + if s.outcomeOf db turn = .dropped then 1 else 0 := by
  simp [droppedIn, List.countP_cons]

/-- The tables that are kept are put together turn by turn. -/
theorem keptIn_cons (turn : Stage TableRef σ) (rest : List (Stage TableRef σ)) :
    s.keptIn db (turn :: rest)
      = if s.outcomeOf db turn = .kept then turn.item :: s.keptIn db rest
        else s.keptIn db rest := by
  by_cases hkept : s.outcomeOf db turn = .kept
  · simp [keptIn, hkept]
  · simp [keptIn, hkept]

/-- A table is kept if its drop failed for another reason than that it is missing. -/
theorem mem_keptIn_iff {turns : List (Stage TableRef σ)} {r : TableRef} :
    r ∈ s.keptIn db turns ↔ ∃ turn ∈ turns, turn.item = r
      ∧ ∃ e, s.dropAnswer? db turn = some (.error e) ∧ e.isMissingTable = false := by
  simp only [keptIn, List.mem_map, List.mem_filter, decide_eq_true_eq, outcomeOf_eq_kept_iff]
  constructor
  · rintro ⟨turn, ⟨hturn, hrefused⟩, hitem⟩
    exact ⟨turn, hturn, hitem, hrefused⟩
  · rintro ⟨turn, hturn, hitem, hrefused⟩
    exact ⟨turn, ⟨hturn, hrefused⟩, hitem⟩

/-- The tables that were dropped in their turns, in order. -/
def droppedTables (turns : List (Stage TableRef σ)) : List TableRef :=
  (turns.filter (s.outcomeOf db · = .dropped)).map Stage.item

/-- The tables that are dropped are put together turn by turn, too. -/
theorem droppedTables_cons (turn : Stage TableRef σ) (rest : List (Stage TableRef σ)) :
    s.droppedTables db (turn :: rest)
      = if s.outcomeOf db turn = .dropped then turn.item :: s.droppedTables db rest
        else s.droppedTables db rest := by
  by_cases hdropped : s.outcomeOf db turn = .dropped
  · simp [droppedTables, hdropped]
  · simp [droppedTables, hdropped]

/-- There are as many of them as were counted. -/
theorem length_droppedTables (turns : List (Stage TableRef σ)) :
    (s.droppedTables db turns).length = s.droppedIn db turns := by
  rw [droppedTables, List.length_map, droppedIn, List.countP_eq_length_filter]

/-- The session when tables were recorded as dropped. -/
def afterDrops (tables : List TableRef) : Session :=
  { s with registry := tables.foldl Registry.recordDropped s.registry }

/-- What is said in turns. -/
def saidIn (turns : List (Stage TableRef σ)) : List Exchange :=
  turns.flatMap fun turn => (s.dropTurn turn.item).transcript db turn.found

/-- Dropping tables in turn ends.  It counts those that were dropped, lists those that
    were kept, and records the drops. -/
theorem dropEach_ends_turns (listed : List TableRef) (state : σ) :
    (s.dropEach listed).Ends db state
      (s.droppedIn db (s.turns db listed state), s.keptIn db (s.turns db listed state),
        s.afterDrops (s.droppedTables db (s.turns db listed state)))
      (leftByStages db s.dropTurn listed state) (s.saidIn db (s.turns db listed state)) := by
  induction listed generalizing s state with
  | nil => exact ends_pure db _ state
  | cons table rest ih =>
    -- the first turn ends in its outcome, and the other turns start from where it ends
    let turn : Stage TableRef σ := ⟨table, state⟩
    obtain ⟨tried, left, forgetting, hturn⟩ := s.exists_turnEnds db turn
    have hleft : ((s.dropTurn table).run db state).2 = left :=
      congrArg Prod.snd hturn.ends.run
    have hsaid : (s.dropTurn table).transcript db state
      = s.examination db turn ++ forgetting := hturn.ends.transcript
    show Ends db _ _ (s.droppedIn db (turn :: s.turns db rest _),
      s.keptIn db (turn :: s.turns db rest _),
      s.afterDrops (s.droppedTables db (turn :: s.turns db rest _)))
        (leftByStages db s.dropTurn rest _)
        ((s.dropTurn table).transcript db state ++ s.saidIn db (s.turns db rest _))
    rw [hleft, hsaid, List.append_assoc, droppedIn_cons, keptIn_cons, droppedTables_cons]
    unfold dropEach
    refine hturn.examined.bind ?_
    cases houtcome : s.outcomeOf db turn with
    | dropped =>
      have hforgotten := hturn.forgotten (by rw [houtcome]; decide)
      -- the turns do not depend on the registry, so recording the drop changes none of them
      have hrest := ih { s with registry := s.registry.recordDropped table } left
      exact hforgotten.bind (hrest.bind_pure rfl)
    | gone =>
      have hforgotten := hturn.forgotten (by rw [houtcome]; decide)
      exact hforgotten.bind (ih s left)
    | kept =>
      obtain ⟨rfl, rfl⟩ := hturn.kept houtcome
      exact (ih s left).bind_pure rfl

/-- A registry that lists nothing goes on listing nothing when drops are recorded. -/
theorem created_foldl_recordDropped {tables : List TableRef} {r : Registry}
    (hnone : r.created = []) : (tables.foldl Registry.recordDropped r).created = [] := by
  induction tables generalizing r with
  | nil => exact hnone
  | cons table rest ih =>
    refine ih ?_
    simp [Registry.recordDropped, Registry.entryFor?, hnone]

/-- To put tables back brings in those tables. -/
theorem mem_created_foldl_recordCreated {tables : List TableRef} {r : Registry} {t : TableRef} :
    t ∈ (tables.foldl Registry.recordCreated r).created ↔ t ∈ r.created ∨ t ∈ tables := by
  induction tables generalizing r with
  | nil => simp
  | cons table rest ih =>
    rw [List.foldl_cons, ih, List.mem_cons, ← or_assoc]
    refine or_congr_left ?_
    unfold Registry.recordCreated
    split
    · next hlisted =>
      have hlisted : table ∈ r.created := by simpa using hlisted
      exact ⟨Or.inl, fun h => h.elim id fun heq => heq ▸ hlisted⟩
    · simp

/-- The session that a cleanup leaves behind, by the turns that it has given. -/
def afterTurns (turns : List (Stage TableRef σ)) : Session :=
  let dropped := { s with registry := s.registry.takeCreated.2 }.afterDrops
    (s.droppedTables db turns)
  { dropped with registry := (s.keptIn db turns).foldl Registry.recordCreated dropped.registry }

/-- A cleanup ends.  It counts the tables that were dropped. -/
theorem cleanup_ends_turns (state : σ) :
    s.cleanup.Ends db state
      (s.droppedIn db (s.turns db s.registry.created state),
        s.afterTurns db (s.turns db s.registry.created state))
      (leftByStages db s.dropTurn s.registry.created state)
      (s.saidIn db (s.turns db s.registry.created state)) := by
  -- the turns are the same when the list has been taken away
  have hrun := dropEach_ends_turns { s with registry := s.registry.takeCreated.2 } db
    s.registry.created state
  exact hrun.bind_pure rfl

/-- A cleanup is the turns of its tables, one after the other. -/
theorem cleanup_run_turns (state : σ) :
    s.cleanup.run db state
      = (.ok (s.droppedIn db (s.turns db s.registry.created state),
          s.afterTurns db (s.turns db s.registry.created state)),
        leftByStages db s.dropTurn s.registry.created state) :=
  (s.cleanup_ends_turns db state).run

/-- What a cleanup leaves listed are the tables that were kept. -/
theorem mem_created_afterTurns_iff {turns : List (Stage TableRef σ)} {r : TableRef} :
    r ∈ (s.afterTurns db turns).registry.created ↔ r ∈ s.keptIn db turns := by
  show r ∈ ((s.keptIn db turns).foldl Registry.recordCreated _).created ↔ _
  rw [mem_created_foldl_recordCreated]
  have hnone : ((s.droppedTables db turns).foldl Registry.recordDropped
      s.registry.takeCreated.2).created = [] := created_foldl_recordDropped rfl
  show r ∈ ((s.droppedTables db turns).foldl Registry.recordDropped
    s.registry.takeCreated.2).created ∨ _ ↔ _
  rw [hnone, or_iff_right List.not_mem_nil]

/-! ## §3. Truthful catalogs -/

section

variable {db} {holds : σ → τ → Prop} {named : TableRef → τ}
  (hdb : TruthfulCatalog db s.dialect holds named)

include hdb

/-- After its turn a table is there if it was before and was not dropped. -/
theorem holds_dropTurn_iff (turn : Stage TableRef σ) (x : τ) :
    holds ((s.dropTurn turn.item).run db turn.found).2 x
      ↔ holds turn.found x ∧ (s.outcomeOf db turn = .dropped → named turn.item ≠ x) := by
  obtain ⟨outcome, tried, hdrop, htried, -⟩ := s.dropIfPresent_run hdb turn.item turn.found
  obtain ⟨_, left, forgetting, hturn⟩ := s.exists_turnEnds db turn
  have hsame := hdrop.symm.trans hturn.examined.run
  simp only [Prod.mk.injEq, Except.ok.injEq] at hsame
  obtain ⟨rfl, rfl⟩ := hsame
  rw [hturn.ends.run]
  by_cases hkept : s.outcomeOf db turn = .kept
  · rw [(hturn.kept hkept).1, htried]
  · -- forgetting the table changes no table
    obtain ⟨final, hfinal, hsame⟩ := s.forgetLogged_run hdb turn.item tried
    obtain ⟨-, rfl⟩ := Prod.mk.inj (hfinal.symm.trans (hturn.forgotten hkept).run)
    rw [hsame, htried]

/-- A table that is there after its turn was refused to be dropped. -/
theorem exists_refusal_of_holds_dropTurn {turn : Stage TableRef σ}
    (h : holds ((s.dropTurn turn.item).run db turn.found).2 (named turn.item)) :
    ∃ e, s.dropAnswer? db turn = some (.error e) := by
  obtain ⟨hbefore, hspared⟩ := (s.holds_dropTurn_iff hdb turn _).mp h
  by_cases habsent : (db.lookUp turn.item turn.found).1 = .ok false
  · -- the catalog would not have told the truth
    have htrue := (hdb.lookUp_answer turn.item turn.found false habsent).mpr hbefore
    exact absurd htrue Bool.false_ne_true
  · have hanswer := s.dropAnswer?_of_tried db habsent
    cases hdrop : (db.execute (Catalog.dropIfExists s.dialect turn.item)
        (db.lookUp turn.item turn.found).2).1 with
    | error e => exact ⟨e, by rw [hanswer, hdrop]⟩
    | ok answer =>
      have hdropped : s.outcomeOf db turn = .dropped := by
        rw [outcomeOf, hanswer, hdrop]
        rfl
      exact absurd rfl (hspared hdropped)

/-- **What a cleanup forgets.**  A cleanup of any session, over any database with a
    truthful catalog, ends and gives every listed table its turn.  If a listed table
    is still there afterwards, the database refused to drop it in each of its turns;
    and it stays listed if and only if one of these refusals was not taken to say
    that the table is missing. -/
theorem mem_created_cleanup_iff (state : σ) :
    ∃ (count : Nat) (after : Session) (final : σ),
      s.cleanup.run db state = (.ok (count, after), final)
        ∧ (s.turns db s.registry.created state).map Stage.item = s.registry.created
        ∧ ∀ r ∈ s.registry.created, holds final (named r) →
          (∀ turn ∈ s.turns db s.registry.created state, turn.item = r →
            ∃ e, s.dropAnswer? db turn = some (.error e))
          ∧ (r ∈ after.registry.created
            ↔ ∃ turn ∈ s.turns db s.registry.created state, turn.item = r
              ∧ ∃ e, s.dropAnswer? db turn = some (.error e) ∧ e.isMissingTable = false) := by
  refine ⟨_, _, _, s.cleanup_run_turns db state, map_item_stages _ _ _ _,
    fun r _ hfinal => ⟨?_, ?_⟩⟩
  · -- no turn brings a table about, so it was there after each of its own
    have hstep : ∀ item found, holds ((s.dropTurn item).run db found).2 (named r)
        → holds found (named r) :=
      fun item found h => ((s.holds_dropTurn_iff hdb ⟨item, found⟩ _).mp h).1
    intro turn hturn hitem
    have hthere := run_of_mem_stages (holds · (named r)) hstep hfinal turn hturn
    rw [← hitem] at hthere
    exact s.exists_refusal_of_holds_dropTurn hdb hthere
  · rw [mem_created_afterTurns_iff, mem_keptIn_iff]

end

end Session

/-! ## §4. A database that refuses to drop tables -/

namespace RefusedDrops

open GrudgingDatabase (serverContext listing ownTable)
open PlainDatabase (tablesAfter mem_tablesAfter_of_mem)

/-- A SQL Server database whose state lists the quoted names of its tables, and that
    refuses to drop any of them. -/
def database (e : StatementError) : Database (List Text) where
  execute s tables :=
    if "IF OBJECT_ID(".toList.isPrefixOf s.sql then (.error e, tables)
    else (.ok ⟨[]⟩, tablesAfter s.sql tables)
  lookUp r tables := (.ok (tables.contains (r.qualified .ms)), tables)
  askSchema tables := (.ok "dbo".toList, tables)
  readClock tables := (⟨0, 0⟩, tables)

theorem execute_dropIfExists (e : StatementError) (r : TableRef) (tables : List Text) :
    (database e).execute (Catalog.dropIfExists .ms r) tables = (.error e, tables) := rfl

/-- Bookkeeping changes the tables only as its text says. -/
theorem execute_bookkeeping (e : StatementError) {s : Statement} (h : IsBookkeeping .ms s)
    (tables : List Text) :
    (database e).execute s tables = (.ok ⟨[]⟩, tablesAfter s.sql tables) := by
  cases h with
  | log schema log command => cases command <;> rfl
  | listIndexes r => rfl
  | renameIndex r index newIndex => rfl

/-- The catalog of the database tells which tables there are. -/
theorem truthful (e : StatementError) :
    TruthfulCatalog (database e) .ms (fun tables name => name ∈ tables) (·.qualified .ms) where
  lookUp_answer r tables present h := by
    have hpresent : tables.contains (r.qualified .ms) = present := by injection h
    rw [← hpresent]
    exact List.contains_iff_mem
  lookUp_holds _ _ _ := Iff.rfl
  askSchema_holds _ _ := Iff.rfl
  readClock_holds _ _ := Iff.rfl
  drop_ok r tables answer name h := by
    rw [execute_dropIfExists] at h
    injection h
  drop_error r tables _ name _ := by rw [execute_dropIfExists]
  rowDeletion_holds s tables name hs := by
    rw [execute_bookkeeping e hs.isBookkeeping]
    show name ∈ tablesAfter s.sql tables ↔ name ∈ tables
    rw [PlainDatabase.tablesAfter_of_isRowDeletion hs]
  bookkeeping_keeps s tables name hs hname := by
    rw [execute_bookkeeping e hs]
    exact mem_tablesAfter_of_mem (PlainDatabase.behind?_dropWords_of_isBookkeeping hs) hname

/-- The only refusal is the given one. -/
theorem eq_of_dropAnswer?_eq {e refusal : StatementError} {s : Session}
    {turn : Stage TableRef (List Text)} (hdialect : s.dialect = .ms)
    (h : s.dropAnswer? (database e) turn = some (.error refusal)) : refusal = e := by
  unfold Session.dropAnswer? at h
  rw [hdialect] at h
  split at h
  · injection h
  · rw [execute_dropIfExists] at h
    injection h with h
    injection h with h
    exact h.symm

def createT : Text := "CREATE TABLE [dbo].[t] (id int)".toList

/-- The table and the log that the session creates with it. -/
def withLog : List Text := ["[dbo].[t]".toList, "[dbo].[__temp_log_table_alice__]".toList]

theorem classify_createT :
    Script.classify (listing []).dialect (listing []).defaultSchema createT
      = .ok ⟨[.created ownTable]⟩ := by decide +kernel

/-- The table is in use by someone else. -/
def lockTimeout : StatementError :=
  ⟨"Lock request time out period exceeded.".toList, some "1222".toList⟩

/-- The table may not be dropped as long as it is replicated. -/
def replicated : StatementError :=
  ⟨"Cannot drop the table 'dbo.t' because it is being used for replication.".toList,
    some "3724".toList⟩

end RefusedDrops

open RefusedDrops GrudgingDatabase in
/-- A table that is locked is still there after a cleanup, and stays listed. -/
theorem Session.mem_created_cleanup_of_lockTimeout :
    ∃ (count : Nat) (after : Session),
      (listing [ownTable]).cleanup.run (database lockTimeout) withLog
          = (.ok (count, after), withLog)
        ∧ ownTable.qualified .ms ∈ withLog ∧ ownTable ∈ after.registry.created := by
  obtain ⟨count, after, final, hrun, hitems, hlisted⟩ :=
    (listing [ownTable]).mem_created_cleanup_iff (truthful lockTimeout) withLog
  have hsame : ((listing [ownTable]).cleanup.run (database lockTimeout) withLog).2 = withLog := by
    decide +kernel
  rw [hrun] at hsame
  obtain rfl : final = withLog := hsame
  have hthere : ownTable.qualified .ms ∈ withLog := by decide
  obtain ⟨hrefused, hiff⟩ := hlisted ownTable List.mem_cons_self hthere
  refine ⟨count, after, hrun, hthere, hiff.mpr ?_⟩
  -- the one turn is that of the table
  have hitem : ownTable ∈ ((listing [ownTable]).turns (database lockTimeout)
      (listing [ownTable]).registry.created withLog).map Stage.item :=
    hitems ▸ List.mem_cons_self
  obtain ⟨turn, hturn, hitem⟩ := List.mem_map.mp hitem
  obtain ⟨e, he⟩ := hrefused turn hturn hitem
  obtain rfl := eq_of_dropAnswer?_eq rfl he
  exact ⟨turn, hturn, hitem, _, he, by decide +kernel⟩

open RefusedDrops GrudgingDatabase in
/-- A session creates a table that is then replicated, so that its drop is refused.
    It is still there after a cleanup, and no longer listed. -/
theorem Session.not_mem_created_cleanup_of_replicated :
    TruthfulCatalog (database replicated) .ms (fun tables name => name ∈ tables)
        (·.qualified .ms)
      ∧ ∃ (s after : Session) (state final : List Text) (count : Nat),
        (openWith .ms serverContext).run (database replicated) [] = (.ok (.ok (listing [])), [])
          ∧ ((listing []).query createT .standard).run (database replicated) []
            = (.ok (.ok (some ⟨[]⟩), s), state)
          ∧ ownTable ∈ s.registry.created
          ∧ s.cleanup.run (database replicated) state = (.ok (count, after), final)
          ∧ ownTable.qualified .ms ∈ final ∧ ownTable ∉ after.registry.created := by
  have hexecute : (database replicated).execute (.plain createT) []
      = (.ok ⟨[]⟩, ["[dbo].[t]".toList]) := by
    rfl
  have hrecorded : ((recordEvents true (listing []).begun [.created ownTable]).run
        (database replicated) ["[dbo].[t]".toList]).1.toOption
          = some { listing [ownTable] with phase := .postProcessing }
      ∧ ((recordEvents true (listing []).begun [.created ownTable]).run
        (database replicated) ["[dbo].[t]".toList]).2 = withLog := by decide +kernel
  have hevents := run_eq_of_toOption_eq hrecorded.1
  rw [hrecorded.2] at hevents
  have hquery := query_run_of_classify hexecute
    (show QueryOptions.standard.unrecorded = false from rfl) classify_createT hevents
  have hcleaned : ((listing [ownTable]).cleanup.run (database replicated) withLog).1.toOption
        = some (0, listing [])
      ∧ ownTable.qualified .ms
        ∈ ((listing [ownTable]).cleanup.run (database replicated) withLog).2 := by
    decide +kernel
  exact ⟨truthful replicated, _, _, _, _, _, rfl, hquery, List.mem_cons_self,
    run_eq_of_toOption_eq hcleaned.1, hcleaned.2, List.not_mem_nil⟩

end TableLedger
