/-
  TableLedger.Proofs.Journal.Rules — the rule that housekeeping heeds.

  Housekeeping may ask for the logs and for their rows, and delete the rows of a
  table.  It drops tables, too; but a table only after the log of the table's own
  schema was said to list it as expired.

  Main statements:
    • `abides_bind` — parts of a journal, one after the other,
    • `purgeTables_abides` — tables are dropped that were listed as expired,
    • `housekeeping_abides` — so it is in housekeeping as a whole.
-/

import TableLedger.Proofs.Session.Bookkeeping
import TableLedger.Proofs.Transcript

namespace TableLedger

open Dialogue

namespace Journal

/-! ## §1. Journals that heed a rule -/

section Abides

variable {α β : Type} {rule : Rule} {post : α → List Exchange → Prop}
  {final : β → List Exchange → Prop} {said : List Exchange}

/-- A dialogue of the journal heeds a rule, and `post` holds of the value that it
    ends with, unless it fails. -/
def Abides (rule : Rule) (post : α → List Exchange → Prop) (x : JournalDialogue α)
    (said : List Exchange) : Prop :=
  x.run.Heeds rule (fun result later => ∀ a, result = .ok a → post a later) said

theorem abides_pure {a : α} (h : post a said) :
    Abides rule post (pure a : JournalDialogue α) said := by
  refine heeds_pure ?_
  rintro _ ⟨⟩
  exact h

/-- The second part of a journal abides by the rule after what was said in the first. -/
theorem abides_bind {x : JournalDialogue α} {f : α → JournalDialogue β}
    (hx : Abides rule post x said)
    (hf : ∀ a later, said <+: later → post a later → Abides rule final (f a) later) :
    Abides rule final (x >>= f) said := by
  refine heeds_bind hx fun result later hlater hresult => ?_
  cases result with
  | ok a => exact hf a later hlater (hresult a rfl)
  | error e => exact heeds_pure nofun

theorem abides_lift {x : Dialogue α} (hx : x.Heeds rule post said) :
    Abides rule post (liftM x) said := by
  refine heeds_bind hx fun a later _ ha => heeds_pure ?_
  rintro _ ⟨⟩
  exact ha

theorem abides_discard {x : JournalDialogue α} (hx : Abides rule post x said) :
    Abides rule (fun _ _ => True) (discard x) said :=
  abides_bind hx fun _ _ _ _ => abides_pure trivial

theorem abides_answer (schema : Text) (operation : JournalOperation)
    {answered : Except StatementError α} (h : ∀ a, answered = .ok a → post a said) :
    Abides rule post (answer schema operation answered) said := by
  cases answered with
  | ok a => exact abides_pure (h a rfl)
  | error e => exact heeds_pure nofun

theorem answer_abides (schema : Text) (operation : JournalOperation)
    (answered : Except StatementError α) :
    Abides rule (fun _ _ => True) (answer schema operation answered) said :=
  abides_answer schema operation fun _ _ => trivial

theorem abides_readingClock : Abides rule (fun _ _ => True) (liftM readingClock) said :=
  abides_lift fun _ => trivial

theorem abides_lookingUp (t : TableRef) :
    Abides rule (fun _ _ => True) (liftM (lookingUp t)) said :=
  abides_lift fun _ => trivial

/-- A statement that is allowed may be sent, and its answer has been said then. -/
theorem abides_executing {s : Statement} (h : (rule said).statements s) :
    Abides rule (fun answer later => .executed s answer ∈ later) (liftM (executing s)) said :=
  abides_lift (heeds_executing h)

variable (j : Journal)

/-- To ask for the log breaks no rule. -/
theorem logExists_abides (schema : Text) :
    Abides rule (fun _ _ => True) (j.logExists schema) said :=
  abides_bind (abides_lookingUp _) fun _ _ _ _ => answer_abides _ _ _

/-- A command that did not fail was answered. -/
theorem perform_abides {schema : Text} {command : LogCommand}
    (h : (rule said).statements (command.statement j.dialect schema j.logName)) :
    Abides rule (fun result later =>
        .executed (command.statement j.dialect schema j.logName) (.ok result) ∈ later)
      (j.perform schema command) said := by
  refine abides_bind (abides_executing h) fun answered later _ hsaid => ?_
  refine abides_answer _ _ fun result hresult => ?_
  exact hresult ▸ hsaid

end Abides

/-! ## §2. The rule of housekeeping -/

/-- A statement of housekeeping, after what was said: a table is dropped if its name
    was in the answer to a query for what has expired in the log of its schema. -/
inductive IsHousekeeping (j : Journal) (said : List Exchange) : Statement → Prop where
  | schemasWithLog : IsHousekeeping j said (Catalog.schemasWithLog j.dialect j.logName)
  | listTables (schema : Text) :
      IsHousekeeping j said (LogCommand.listTables.statement j.dialect schema j.logName)
  | listExpired (schema : Text) (cutoff : Timestamp) :
      IsHousekeeping j said ((LogCommand.listExpired cutoff).statement j.dialect schema j.logName)
  | deleteNamed (schema name : Text) :
      IsHousekeeping j said ((LogCommand.deleteNamed name).statement j.dialect schema j.logName)
  | drop {schema name : Text} {cutoff : Timestamp} {result : QueryResult}
      (hlisted : .executed ((LogCommand.listExpired cutoff).statement j.dialect schema j.logName)
        (.ok result) ∈ said)
      (hname : name ∈ result.columnTexts Catalog.tableNameColumn) :
      IsHousekeeping j said (Catalog.dropIfExists j.dialect (.inSchema schema name))

/-- What may be sent may be sent later, too. -/
theorem IsHousekeeping.later {j : Journal} {said later : List Exchange} {s : Statement}
    (h : IsHousekeeping j said s) (hlater : said <+: later) : IsHousekeeping j later s := by
  cases h with
  | schemasWithLog => exact .schemasWithLog
  | listTables schema => exact .listTables schema
  | listExpired schema cutoff => exact .listExpired schema cutoff
  | deleteNamed schema name => exact .deleteNamed schema name
  | drop hlisted hname => exact .drop (hlater.subset hlisted) hname

/-- What housekeeping may do after what was said; it never breaks off. -/
def housekeepingRule (j : Journal) : Rule := fun said => ⟨IsHousekeeping j said, False⟩

/-! ## §3. Housekeeping -/

variable (j : Journal) {said : List Exchange}

/-- The table to be dropped has been listed. -/
theorem purgeTable_abides {schema name : Text}
    (h : IsHousekeeping j said (Catalog.dropIfExists j.dialect (.inSchema schema name))) :
    Abides j.housekeepingRule (fun _ _ => True) (j.purgeTable schema name) said := by
  refine abides_bind (abides_lookingUp _) fun found later hlater _ => ?_
  -- only a table that is there for sure is dropped, and only then are its rows deleted
  split
  · refine abides_bind (abides_executing (h.later hlater)) fun answer _ _ _ => ?_
    cases answer with
    | ok _ =>
      exact abides_bind (abides_discard (j.perform_abides (.deleteNamed schema name)))
        fun _ _ _ _ => abides_pure trivial
    | error _ => exact abides_pure trivial
  · exact abides_pure trivial

/-- A purge may drop the tables that were listed as expired. -/
theorem purgeTables_abides {schema : Text} {names : List Text}
    (h : ∀ name ∈ names,
      IsHousekeeping j said (Catalog.dropIfExists j.dialect (.inSchema schema name))) :
    Abides j.housekeepingRule (fun _ _ => True) (j.purgeTables schema names) said := by
  induction names generalizing said with
  | nil => exact abides_pure trivial
  | cons name rest ih =>
    obtain ⟨hname, hrest⟩ := List.forall_mem_cons.mp h
    refine abides_bind (j.purgeTable_abides hname) fun _ later hlater _ => ?_
    exact abides_bind (ih fun other hother => (hrest other hother).later hlater)
      fun _ _ _ _ => abides_pure trivial

/-- So a purge of a schema drops no others: it asks for the list before. -/
theorem purgeExpired_abides (schema : Text) :
    Abides j.housekeepingRule (fun _ _ => True) (j.purgeExpired schema) said := by
  refine abides_bind (j.logExists_abides schema) fun found _ _ _ => ?_
  cases found with
  | false => exact abides_pure trivial
  | true =>
    refine abides_bind abides_readingClock fun now clocked _ _ => ?_
    -- the names come from the answer to the query for expired tables
    have hexpired : Abides j.housekeepingRule
        (fun names later => ∀ name ∈ names,
          IsHousekeeping j later (Catalog.dropIfExists j.dialect (.inSchema schema name)))
        (j.loggedTables schema (.listExpired now)) clocked :=
      abides_bind (j.perform_abides (.listExpired schema now)) fun _ _ _ hlisted =>
        abides_pure fun _ hname => .drop hlisted hname
    exact abides_bind hexpired fun _ _ _ hnames => j.purgeTables_abides hnames

/-- To reconcile a table is to look it up and to delete rows. -/
theorem reconcileTable_abides (schema name : Text) :
    Abides j.housekeepingRule (fun _ _ => True) (j.reconcileTable schema name) said := by
  refine abides_bind (abides_lookingUp _) fun answered _ _ _ => ?_
  refine abides_bind (answer_abides _ _ _) fun found _ _ _ => ?_
  cases found with
  | true => exact abides_pure trivial
  | false =>
    exact abides_bind (abides_discard (j.perform_abides (.deleteNamed schema name)))
      fun _ _ _ _ => abides_pure trivial

/-- Several tables are reconciled one after the other. -/
theorem reconcileTables_abides (schema : Text) (names : List Text) :
    Abides j.housekeepingRule (fun _ _ => True) (j.reconcileTables schema names) said := by
  induction names generalizing said with
  | nil => exact abides_pure trivial
  | cons name rest ih =>
    refine abides_bind (j.reconcileTable_abides schema name) fun _ _ _ _ => ?_
    exact abides_bind ih fun _ _ _ _ => abides_pure trivial

theorem reconcile_abides (schema : Text) :
    Abides j.housekeepingRule (fun _ _ => True) (j.reconcile schema) said := by
  refine abides_bind (j.logExists_abides schema) fun found asked _ _ => ?_
  cases found with
  | false => exact abides_pure trivial
  | true =>
    have hlisted : Abides j.housekeepingRule (fun _ _ => True)
        (j.loggedTables schema .listTables) asked :=
      abides_bind (j.perform_abides (.listTables schema)) fun _ _ _ _ => abides_pure trivial
    exact abides_bind hlisted fun _ _ _ _ => j.reconcileTables_abides schema _

/-- Housekeeping in a schema abides by the rule, whatever was said before. -/
theorem housekeepSchema_abides (schema : Text) (said : List Exchange) :
    Abides j.housekeepingRule (fun _ _ => True) (j.housekeepSchema schema) said := by
  refine abides_bind (j.purgeExpired_abides schema) fun _ _ _ _ => ?_
  exact abides_bind (j.reconcile_abides schema) fun _ _ _ _ => abides_pure trivial

/-- So it does in schema after schema; what fails in one is no matter to the next. -/
theorem housekeepSchemas_heeds (schemas : List Text) :
    (j.housekeepSchemas schemas).Heeds j.housekeepingRule (fun _ _ => True) said := by
  induction schemas generalizing said with
  | nil => exact heeds_pure trivial
  | cons schema rest ih =>
    refine heeds_bind (j.housekeepSchema_abides schema said) fun here _ _ _ => ?_
    refine heeds_bind ih fun others _ _ _ => ?_
    cases here with
    | ok done => exact heeds_pure trivial
    | error e => exact heeds_pure trivial

/-- **Housekeeping drops what is listed.**  Every table that it drops was listed as
    expired before, by the log of the table's own schema. -/
theorem housekeeping_abides (said : List Exchange) :
    Abides j.housekeepingRule (fun _ _ => True) j.housekeeping said := by
  have hschemas : Abides j.housekeepingRule (fun _ _ => True) j.schemasWithLog said :=
    abides_bind (abides_executing .schemasWithLog) fun _ _ _ _ =>
      abides_bind (answer_abides _ _ _) fun _ _ _ _ => abides_pure trivial
  exact abides_bind hschemas fun schemas _ _ _ => abides_lift (j.housekeepSchemas_heeds schemas)

end Journal

end TableLedger
