/-
  TableLedger.Proofs.Session.CleanedTables — a cleanup sorts the listed tables.

  A cleanup takes the list of created tables away and gives each of them its turn.
  A table that was dropped goes to the end of the list of dropped tables, one that
  was refused to be dropped goes back to where it stood, and one that was gone goes
  nowhere.  Recording a drop looks for an entry to take away, also one that is only
  to the same table; by then the list is empty, so it finds none.  Putting a table
  back lists it unless it is listed; the list had no table twice, so it is not.

  What the database says to the logs meanwhile decides nothing of this.

  Main statements:
    • `Session.dropTurn_transcript` — what is said in a turn,
    • `Session.created_afterTurns`, `Session.dropped_afterTurns` — the lists after the
      turns,
    • `Session.cleanup_sorts` — every table has one turn, and what the turn came to
      settles where the table is listed afterwards.
-/

import TableLedger.Proofs.Registry.Upkeep
import TableLedger.Proofs.Session.KeptTables
import TableLedger.Proofs.Session.RefusedScript

namespace TableLedger

open Dialogue

/-! ## §1. Lists that are put back -/

namespace Registry

/-- Recording drops lists them behind the earlier ones. -/
theorem dropped_foldl_recordDropped (tables : List TableRef) (r : Registry) :
    (tables.foldl recordDropped r).dropped = r.dropped ++ tables := by
  induction tables generalizing r with
  | nil => exact (List.append_nil _).symm
  | cons table rest ih =>
    rw [List.foldl_cons, ih, List.append_cons]
    rfl

/-- Tables that are listed nowhere yet are all listed, in order. -/
theorem created_foldl_recordCreated {tables : List TableRef} {r : Registry}
    (hnodup : (r.created ++ tables).Nodup) :
    (tables.foldl recordCreated r).created = r.created ++ tables := by
  induction tables generalizing r with
  | nil => exact (List.append_nil _).symm
  | cons table rest ih =>
    have hnew : table ∉ r.created := fun hlisted =>
      List.disjoint_of_nodup_append hnodup hlisted List.mem_cons_self
    have hrecorded : (r.recordCreated table).created = r.created ++ [table] := by
      simp [recordCreated, hnew]
    rw [List.append_cons, ← hrecorded] at hnodup
    rw [List.foldl_cons, ih hnodup, hrecorded, ← List.append_cons]

end Registry

namespace Session

variable {σ : Type}

/-! ## §2. What is said in a turn -/

/-- A call by which a table is forgotten: the log of its schema is looked up, or its
    rows are deleted there. -/
inductive Forgets (s : Session) (table : TableRef) : Exchange → Prop where
  | lookedUp (answer : Except StatementError Bool) :
      Forgets s table (.lookedUp (s.journal.log table.schema) answer)
  | deleted (answer : Except StatementError QueryResult) :
      Forgets s table (.executed ((LogCommand.delete table.table).statement s.journal.dialect
        table.schema s.journal.logName) answer)

section

variable (s : Session) (db : Database σ)

/-- Whatever the logs answer, forgetting a table calls for nothing else. -/
theorem forgets_of_mem_forgetLogged_transcript {table : TableRef} {state : σ} {e : Exchange}
    (h : e ∈ (s.forgetLogged table).transcript db state) : s.Forgets table e := by
  let log := s.journal.log table.schema
  let deletion := (LogCommand.delete table.table).statement s.journal.dialect table.schema
    s.journal.logName
  unfold forgetLogged at h
  split at h
  · obtain rfl | h : e = .lookedUp log (db.lookUp log state).1 ∨ e ∈ _ := List.mem_cons.mp h
    · exact .lookedUp _
    cases hlog : (db.lookUp log state).1 with
    | error refusal => exact absurd (hlog ▸ h) List.not_mem_nil
    | ok present =>
      rw [hlog] at h
      cases present with
      | false => exact absurd h List.not_mem_nil
      | true =>
        -- rows are deleted only where there is a log
        obtain rfl | h : e = .executed deletion (db.execute deletion (db.lookUp log state).2).1
          ∨ e ∈ _ := List.mem_cons.mp h
        · exact .deleted _
        cases hdeleted : (db.execute deletion (db.lookUp log state).2).1 with
        | error refusal => exact absurd (hdeleted ▸ h) List.not_mem_nil
        | ok answer => exact absurd (hdeleted ▸ h) List.not_mem_nil
  · exact absurd h List.not_mem_nil

/-- A turn looks the table up and drops it, and forgets its rows unless it is kept. -/
theorem dropTurn_transcript (turn : Stage TableRef σ) :
    ∃ forgetting, (s.dropTurn turn.item).transcript db turn.found
        = s.examination db turn ++ forgetting
      ∧ (∀ e ∈ forgetting, s.Forgets turn.item e)
      ∧ (s.outcomeOf db turn = .kept → forgetting = []) := by
  obtain ⟨tried, left, forgetting, hturn⟩ := s.exists_turnEnds db turn
  refine ⟨forgetting, hturn.ends.transcript, fun e he => ?_, fun h => (hturn.kept h).2⟩
  by_cases hkept : s.outcomeOf db turn = .kept
  · -- a table that is kept is not forgotten
    rw [(hturn.kept hkept).2] at he
    exact absurd he List.not_mem_nil
  · rw [← (hturn.forgotten hkept).transcript] at he
    exact s.forgets_of_mem_forgetLogged_transcript db he

/-! ## §3. The lists after a cleanup -/

/-- A table is dropped if its drop was tried and answered well. -/
theorem outcomeOf_eq_dropped_iff {turn : Stage TableRef σ} :
    s.outcomeOf db turn = .dropped ↔ ∃ answer, s.dropAnswer? db turn = some (.ok answer) := by
  unfold outcomeOf
  cases s.dropAnswer? db turn with
  | none => simp
  | some answered =>
    cases answered with
    | ok answer => simp [DropOutcome.ofAnswer]
    | error e => cases hmissing : e.isMissingTable <;> simp [DropOutcome.ofAnswer, hmissing]

/-- A table is gone if it was not there, or if its drop was refused as missing. -/
theorem outcomeOf_eq_gone_iff {turn : Stage TableRef σ} :
    s.outcomeOf db turn = .gone
      ↔ (db.lookUp turn.item turn.found).1 = .ok false
        ∨ ∃ e, s.dropAnswer? db turn = some (.error e) ∧ e.isMissingTable = true := by
  by_cases habsent : (db.lookUp turn.item turn.found).1 = .ok false
  · simp [outcomeOf, s.dropAnswer?_of_absent db habsent, habsent]
  · rw [outcomeOf, s.dropAnswer?_of_tried db habsent, or_iff_right habsent, Option.elim_some]
    cases (db.execute (Catalog.dropIfExists s.dialect turn.item)
        (db.lookUp turn.item turn.found).2).1 with
    | ok answer => simp [DropOutcome.ofAnswer]
    | error e => cases hmissing : e.isMissingTable <;> simp [DropOutcome.ofAnswer, hmissing]

/-- The tables that were kept are listed again, in the order in which they had their
    turns. -/
theorem created_afterTurns {turns : List (Stage TableRef σ)}
    (hnodup : (turns.map Stage.item).Nodup) :
    (s.afterTurns db turns).registry.created = s.keptIn db turns := by
  -- the list was taken away, so the drops have found nothing in it
  have hnone : ((s.droppedTables db turns).foldl Registry.recordDropped
      s.registry.takeCreated.2).created = [] := created_foldl_recordDropped rfl
  have hkept : (s.keptIn db turns).Nodup :=
    hnodup.sublist (List.filter_sublist.map Stage.item)
  show ((s.keptIn db turns).foldl Registry.recordCreated _).created = _
  rw [Registry.created_foldl_recordCreated]
  · show ((s.droppedTables db turns).foldl Registry.recordDropped
      s.registry.takeCreated.2).created ++ _ = _
    rw [hnone, List.nil_append]
  · show (((s.droppedTables db turns).foldl Registry.recordDropped
      s.registry.takeCreated.2).created ++ _).Nodup
    rw [hnone, List.nil_append]
    exact hkept

/-- The tables that were dropped are listed behind those that were dropped before. -/
theorem dropped_afterTurns (turns : List (Stage TableRef σ)) :
    (s.afterTurns db turns).registry.dropped
      = s.registry.dropped ++ s.droppedTables db turns := by
  show ((s.keptIn db turns).foldl Registry.recordCreated _).dropped = _
  rw [dropped_foldl_recordCreated]
  exact Registry.dropped_foldl_recordDropped _ _

/-- A session that lists nothing has nothing to clean up. -/
theorem cleanup_ends_of_nil (h : s.registry.created = []) (state : σ) :
    s.cleanup.Ends db state (0, s) state [] := by
  obtain ⟨context, schema, ⟨created, dropped, renames⟩, phase⟩ := s
  obtain rfl : created = [] := h
  exact ⟨rfl, rfl⟩

/-! ## §4. Cleanups -/

/-- What is said in a turn, and what the turn comes to by the answers: a table is kept
    if its drop was refused, and not as missing; it is dropped if its drop was
    answered; and it is gone if it was not there or its drop was refused as missing. -/
structure SettlesTurn (turn : Stage TableRef σ) : Prop where
  said : ∃ forgetting, (s.dropTurn turn.item).transcript db turn.found
      = s.examination db turn ++ forgetting
    ∧ (∀ e ∈ forgetting, s.Forgets turn.item e)
    ∧ (s.outcomeOf db turn = .kept → forgetting = [])
  kept_iff : s.outcomeOf db turn = .kept
    ↔ ∃ e, s.dropAnswer? db turn = some (.error e) ∧ e.isMissingTable = false
  dropped_iff : s.outcomeOf db turn = .dropped
    ↔ ∃ answer, s.dropAnswer? db turn = some (.ok answer)
  gone_iff : s.outcomeOf db turn = .gone
    ↔ (db.lookUp turn.item turn.found).1 = .ok false
      ∨ ∃ e, s.dropAnswer? db turn = some (.error e) ∧ e.isMissingTable = true

/-- Every turn settles its table. -/
theorem settlesTurn (turn : Stage TableRef σ) : s.SettlesTurn db turn where
  said := s.dropTurn_transcript db turn
  kept_iff := s.outcomeOf_eq_kept_iff db
  dropped_iff := s.outcomeOf_eq_dropped_iff db
  gone_iff := s.outcomeOf_eq_gone_iff db

/-- A cleanup that gives every listed table its turn, in order, and lists it afterwards
    by what the turn came to. -/
structure Sorts (state : σ) (after : Session) (final : σ) : Prop where
  items : (s.turns db s.registry.created state).map Stage.item = s.registry.created
  ends : s.cleanup.Ends db state
    ((s.droppedTables db (s.turns db s.registry.created state)).length, after) final
    (s.saidIn db (s.turns db s.registry.created state))
  settled : ∀ turn ∈ s.turns db s.registry.created state, s.SettlesTurn db turn
  created : after.registry.created = s.keptIn db (s.turns db s.registry.created state)
  sublist : after.registry.created.Sublist s.registry.created
  dropped : after.registry.dropped
    = s.registry.dropped ++ s.droppedTables db (s.turns db s.registry.created state)

end

variable {s : Session} {operations : List RegistryOperation}

/-- **A cleanup sorts the listed tables.**  Take a session whose registry has come
    about by any operations.  Whatever the database answers and refuses, a cleanup
    ends and gives every listed table one turn, in order.  In its turn a table is
    looked up and, unless it is not there, to be dropped; calls to forget it follow
    unless it is kept, and nothing else is said.  Afterwards the tables listed as
    created are those that were kept, and the tables listed as dropped are those from
    before and then those that were dropped now, whose number is the answer.  If none
    was kept, a second cleanup says nothing, counts none and changes nothing. -/
theorem cleanup_sorts (hregistry : s.registry = Registry.empty.run operations)
    (db : Database σ) (state : σ) :
    ∃ (after : Session) (final : σ),
      s.Sorts db state after final
        ∧ ((∀ turn ∈ s.turns db s.registry.created state, s.outcomeOf db turn ≠ .kept) →
          ∀ later : σ, after.cleanup.Ends db later (0, after) later []) := by
  -- every listed table has one turn, because none is listed twice
  have hitems : (s.turns db s.registry.created state).map Stage.item = s.registry.created :=
    map_item_stages _ _ _ _
  have hnodup : ((s.turns db s.registry.created state).map Stage.item).Nodup := by
    rw [hitems, hregistry]
    exact Registry.nodup_created_run List.nodup_nil operations
  have hcreated := s.created_afterTurns db hnodup
  have hends := s.cleanup_ends_turns db state
  rw [← length_droppedTables] at hends
  refine ⟨s.afterTurns db (s.turns db s.registry.created state),
    leftByStages db s.dropTurn s.registry.created state, ?_, fun hnone => ?_⟩
  · exact {
      items := hitems
      ends := hends
      settled := fun turn _ => s.settlesTurn db turn
      created := hcreated
      sublist := by
        have hkept : (s.keptIn db (s.turns db s.registry.created state)).Sublist
            ((s.turns db s.registry.created state).map Stage.item) :=
          List.filter_sublist.map Stage.item
        rwa [hitems, ← hcreated] at hkept
      dropped := s.dropped_afterTurns db _ }
  · -- with none kept, none is listed any more
    refine cleanup_ends_of_nil _ db ?_
    rw [hcreated, keptIn, List.map_eq_nil_iff, List.filter_eq_nil_iff]
    intro turn hturn
    simpa using hnone turn hturn

end Session

/-! ## §5. Four tables, four ends -/

namespace SortedTables

open GrudgingDatabase (listing)

def inUse : TableRef := .inSchema "dbo".toList "a".toList

def absent : TableRef := .inSchema "dbo".toList "b".toList

def unseen : TableRef := .inSchema "dbo".toList "c".toList

def free : TableRef := .inSchema "dbo".toList "d".toList

/-- It is not known whether the table is there. -/
def notPermitted : StatementError :=
  ⟨"The SELECT permission was denied.".toList, some "229".toList⟩

/-- The table cannot be seen, so it is taken for missing. -/
def notSeen : StatementError :=
  ⟨"Cannot drop the table 'dbo.c', because it does not exist.".toList, some "3701".toList⟩

/-- A SQL Server database that does not hold the absent table, does not tell whether it
    holds the unseen one, and drops the free one only.  It deletes no rows, either. -/
def database : Database Unit where
  execute s state :=
    if s = Catalog.dropIfExists .ms free then (.ok ⟨[]⟩, state)
    else if s = Catalog.dropIfExists .ms unseen then (.error notSeen, state)
    else (.error RefusedDrops.lockTimeout, state)
  lookUp r state :=
    if r = unseen then (.error notPermitted, state)
    else (.ok (r != absent), state)
  askSchema state := (.ok "dbo".toList, state)
  readClock state := (⟨0, 0⟩, state)

/-- What a session does that lists the given tables. -/
def creating (tables : List TableRef) : List RegistryOperation :=
  tables.map fun table => .record (.created table)

end SortedTables

open SortedTables GrudgingDatabase in
/-- Of four tables one is kept and one is dropped.  Without the one that is kept, there
    is nothing left to clean up. -/
theorem Session.cleanup_sorts_four_tables :
    (listing [inUse, absent, unseen, free]).registry
        = Registry.empty.run (creating [inUse, absent, unseen, free])
      ∧ (∃ after final, (listing [inUse, absent, unseen, free]).Sorts database () after final
        ∧ after.registry.created = [inUse] ∧ after.registry.dropped = [free])
      ∧ ∃ after, ((listing [absent, unseen, free]).cleanup.run database ()).1 = .ok (1, after)
        ∧ after.cleanup.Ends database () (0, after) () [] := by
  have hfour : (listing [inUse, absent, unseen, free]).registry
      = Registry.empty.run (creating [inUse, absent, unseen, free]) := by decide
  have hthree : (listing [absent, unseen, free]).registry
      = Registry.empty.run (creating [absent, unseen, free]) := by decide
  obtain ⟨after, final, hsorts, -⟩ := cleanup_sorts hfour database ()
  obtain ⟨rest, last, hrest, hagain⟩ := cleanup_sorts hthree database ()
  refine ⟨hfour, ⟨after, final, hsorts, ?_, ?_⟩, rest, ?_, hagain ?_ ()⟩
  · rw [hsorts.created]
    decide +kernel
  · rw [hsorts.dropped]
    decide +kernel
  · rw [hrest.ends.run]
    rfl
  · decide +kernel

end TableLedger
