/-
  TableLedger.Proofs.Session.Pruning — work that only takes away.

  Logging a creation adds a row to a log, and following a rename changes one.
  Everything else that a session does of its own accord takes away or only
  asks: it creates logs, deletes rows, drops tables, lists and renames indexes.
  The lemmas here say so once, for housekeeping and for cleanups, in terms of
  the statements that are sent; whatever such statements keep, a run keeps.

  Main statements:
    • `Journal.housekeeping_keepsTo` — housekeeping sends pruning statements only,
    • `Session.ensures_dropEach`, `Session.cleanup_ensures` — so does a cleanup,
      and what it does to the registry is a sequence of events.
-/

import TableLedger.Proofs.Journal.Rules

namespace TableLedger

open Dialogue

/-! ## §1. Pruning statements -/

/-- The command leaves no row in a log that was not there before. -/
def LogCommand.Prunes : LogCommand → Prop
  | insert _ | rename _ _ => False
  | create | delete _ | deleteNamed _ | listTables | listExpired _ => True

/-- A statement of a session that adds no row to a log of the given name and
    changes none. -/
inductive IsPruning (d : Dialect) (log : Text) : Statement → Prop where
  | command (schema : Text) (command : LogCommand) (h : command.Prunes) :
      IsPruning d log (command.statement d schema log)
  | drop (r : TableRef) : IsPruning d log (Catalog.dropIfExists d r)
  | schemasWithLog : IsPruning d log (Catalog.schemasWithLog d log)
  | listIndexes (r : TableRef) : IsPruning d log (Catalog.listIndexes d r)
  | renameIndex (r : TableRef) (index newIndex : Text) :
      IsPruning d log (Catalog.renameIndex d r index newIndex)

/-- A conduct in which every pruning statement may be executed. -/
def Dialogue.Conduct.AllowsPruning (conduct : Conduct) (d : Dialect) (log : Text) : Prop :=
  ∀ s, IsPruning d log s → conduct.statements s

/-- What work that only takes away may do.  The name of an index may break it off. -/
def prunings (d : Dialect) (log : Text) : Conduct := ⟨IsPruning d log, True⟩

/-- A conduct of prunings allows them. -/
theorem prunings_allowsPruning (d : Dialect) (log : Text) :
    (prunings d log).AllowsPruning d log := fun _ hs => hs

/-! ## §2. Housekeeping -/

namespace Journal

variable {conduct : Conduct} (j : Journal) (h : conduct.AllowsPruning j.dialect j.logName)

include h

/-- A command that prunes may be sent. -/
theorem keepsTo_pruning (schema : Text) {command : LogCommand} (hprunes : command.Prunes) :
    KeepsTo conduct (j.perform schema command) :=
  j.keepsTo_perform (h _ (.command schema command hprunes))

theorem ensureLog_keepsTo_pruning (schema : Text) : KeepsTo conduct (j.ensureLog schema) :=
  j.keepsTo_ensureLog (h _ (.command schema .create trivial))

omit h in
/-- Housekeeping prunes. -/
theorem IsHousekeeping.isPruning {j : Journal} {said : List Exchange} {s : Statement}
    (hs : IsHousekeeping j said s) : IsPruning j.dialect j.logName s := by
  cases hs with
  | schemasWithLog => exact .schemasWithLog
  | listTables | listExpired | deleteNamed => exact .command _ _ trivial
  | drop => exact .drop _

/-- A part of a journal that heeds the rule of housekeeping prunes. -/
theorem keepsTo_of_abides {α : Type} {post : α → List Exchange → Prop} {said : List Exchange}
    {x : JournalDialogue α} (hx : Abides j.housekeepingRule post x said) : KeepsTo conduct x := by
  have hended : x.run.Heeds j.housekeepingRule (fun _ _ => True) said :=
    Heeds.mono hx (fun _ _ => id) (fun _ => id) fun _ _ _ => trivial
  exact hended.ensures (fun _ s hs => h s (IsHousekeeping.isPruning hs)) fun _ => False.elim

theorem housekeepSchema_keepsTo (schema : Text) : KeepsTo conduct (j.housekeepSchema schema) :=
  j.keepsTo_of_abides h (j.housekeepSchema_abides schema [])

/-- Housekeeping sends pruning statements only, and never breaks off by itself. -/
theorem housekeeping_keepsTo : KeepsTo conduct j.housekeeping :=
  j.keepsTo_of_abides h (j.housekeeping_abides [])

end Journal

/-! ## §3. Sessions -/

namespace Session

variable {conduct : Conduct} {s : Session}
  (h : conduct.AllowsPruning s.dialect s.journal.logName)

include h

/-- To forget the rows of a table is to prune. -/
theorem forgetLogged_ensures_pruning (table : TableRef) :
    (s.forgetLogged table).Ensures conduct fun _ => True :=
  s.ensures_forgetLogged (fun schema table => h _ (.command schema (.delete table) trivial)) table

omit h in
/-- A table is looked up, and dropped if the conduct allows it. -/
theorem ensures_dropIfPresent {table : TableRef}
    (hdrop : conduct.statements (Catalog.dropIfExists s.dialect table)) :
    (s.dropIfPresent table).Ensures conduct fun _ => True := by
  unfold dropIfPresent
  refine ensures_bind (ensures_lookingUp table) fun found _ => ?_
  split
  · exact ensures_pure trivial
  · refine ensures_bind (ensures_executing hdrop) fun answer _ => ?_
    cases answer with
    | ok _ => exact ensures_pure trivial
    | error _ => exact ensures_pure trivial

omit h in
/-- Dropping tables in turn keeps to any conduct in which these tables may be
    dropped and rows may be deleted, and records drops in the registry. -/
theorem ensures_dropEach {tables : List TableRef} (s : Session)
    (hdrop : ∀ t ∈ tables, conduct.statements (Catalog.dropIfExists s.dialect t))
    (hdelete : ∀ schema table, conduct.statements
      ((LogCommand.delete table).statement s.dialect schema s.journal.logName)) :
    (s.dropEach tables).Ensures conduct fun result =>
      ∃ events, result.2.2 = s.afterEvents events := by
  induction tables generalizing s with
  | nil => exact ensures_pure ⟨[], rfl⟩
  | cons table rest ih =>
    obtain ⟨hfirst, hrest⟩ := List.forall_mem_cons.mp hdrop
    unfold dropEach
    refine ensures_bind (ensures_dropIfPresent hfirst) fun outcome _ => ?_
    cases outcome with
    | dropped =>
      refine ensures_bind (s.ensures_forgetLogged hdelete table) fun _ _ => ?_
      refine ensures_bind (ih { s with registry := s.registry.recordDropped table } hrest hdelete) ?_
      rintro ⟨count, kept, after⟩ ⟨events, rfl⟩
      exact ensures_pure ⟨.dropped table :: events, rfl⟩
    | gone =>
      exact ensures_bind (s.ensures_forgetLogged hdelete table) fun _ _ => ih s hrest hdelete
    | kept =>
      refine ensures_bind (ih s hrest hdelete) ?_
      rintro ⟨count, kept, after⟩ ⟨events, rfl⟩
      exact ensures_pure ⟨events, rfl⟩

omit h in
/-- A cleanup drops tables that are listed as created, at most.  The registry that it
    leaves is the emptied one after some events: the drops of what was dropped, then
    the creations of what was kept. -/
theorem ensures_cleanup
    (hdrop : ∀ t ∈ s.registry.created, conduct.statements (Catalog.dropIfExists s.dialect t))
    (hdelete : ∀ schema table, conduct.statements
      ((LogCommand.delete table).statement s.dialect schema s.journal.logName)) :
    s.cleanup.Ensures conduct fun result =>
      ∃ events, result.2 = { s with registry := s.registry.takeCreated.2 }.afterEvents events := by
  unfold cleanup
  refine ensures_bind
    (ensures_dropEach { s with registry := s.registry.takeCreated.2 } hdrop hdelete) ?_
  rintro ⟨count, kept, after⟩ ⟨events, rfl⟩
  refine ensures_pure ⟨events ++ kept.map .created, ?_⟩
  simp only [afterEvents, List.foldl_append, List.foldl_map]
  rfl

/-- A cleanup prunes. -/
theorem cleanup_ensures :
    s.cleanup.Ensures conduct fun result =>
      ∃ events, result.2 = { s with registry := s.registry.takeCreated.2 }.afterEvents events :=
  ensures_cleanup (fun t _ => h _ (.drop t)) fun schema table =>
    h _ (.command schema (.delete table) trivial)

omit h in
/-- Opening a session housekeeps its logs, at most. -/
theorem openWith_ensures (database : Dialect) {c : SessionContext}
    (h : conduct.AllowsPruning c.dialect (journalOf c).logName) :
    (openWith database c).Ensures conduct fun _ => True := by
  unfold openWith
  split
  · exact ensures_pure trivial
  split
  · exact ensures_pure trivial
  have hchoose : (chooseSchema c).Ensures conduct fun _ => True := by
    unfold chooseSchema
    split
    · exact ensures_pure trivial
    · exact ensures_askingSchema
  refine ensures_bind hchoose fun chosen _ => ?_
  cases chosen with
  | error e => exact ensures_pure trivial
  | ok schema =>
    simp only
    split
    · exact ensures_bind (ensures_discard ((journalOf c).housekeeping_keepsTo h)) fun _ _ =>
        ensures_pure trivial
    · exact ensures_pure trivial

/-- To clean the logs is to prune. -/
theorem cleanLogs_ensures : s.cleanLogs.Ensures conduct fun _ => True := by
  refine ensures_bind (s.journal.housekeeping_keepsTo h) fun answer _ => ?_
  cases answer with
  | ok done => exact ensures_pure trivial
  | error e => exact ensures_pure trivial

end Session

end TableLedger
