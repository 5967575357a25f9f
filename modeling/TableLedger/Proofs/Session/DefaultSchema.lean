/-
  TableLedger.Proofs.Session.DefaultSchema — where bare names fall.

  A session settles its default schema when it opens, and the settled
  schema is a canonical name.  When a script mentions a bare name, the
  schema is canonicalized once more, as if it stood in the script.  So bare
  names fall into the schema of the session exactly when that schema is its
  own canonical form, which a name with capitals that was given in quotes
  is not.

  Main statements:
    • `schema_of_bare` — the schema that a bare name gets,
    • `Run.schema_of_bare_mention_iff` — whether that is the schema of the
      session, for every script recorded in the course of a run.
-/

import Mathlib.Control.Monad.Basic
import TableLedger.Proofs.Identifier
import TableLedger.Proofs.Script.Mention
import TableLedger.Proofs.Session.Run
import TableLedger.Proofs.Session.TruthfulCatalog

namespace TableLedger

open Dialogue Script

/-! ## §1. Bare names -/

/-- The tables that an event is about. -/
def TableEvent.tables : TableEvent → List TableRef
  | .created table => [table]
  | .dropped table => [table]
  | .renamed old new => [old, new]

/-- Whether a mention writes its table as a single part. -/
def Script.Mention.IsBare (d : Dialect) (m : Mention) : Prop :=
  ∃ part, TableRef.split d m.reference.trim = .ok [part]

/-- A bare name gets the canonical form of the default schema. -/
theorem TableRef.schema_of_bare {d : Dialect} {defaultSchema raw part : Text} {t : TableRef}
    (hbare : split d raw.trim = .ok [part]) (ht : parse d defaultSchema raw = .ok t) :
    t.schema = Identifier.canonicalize d defaultSchema := by
  simp only [parse, hbare, ofParts] at ht
  split at ht
  · injection ht
  · split at ht
    · injection ht
    · injection ht with heq
      rw [← heq]
      rfl

namespace Script

/-- Both tables of a rename lie in the schema that was read. -/
theorem Change.schema_of_mem_tables (d : Dialect) (table : TableRef) (change : Change) :
    ∀ t ∈ (change.event d table).tables, t.schema = table.schema := by
  intro t ht
  cases change with
  | creation => rw [List.mem_singleton.mp ht]
  | drop => rw [List.mem_singleton.mp ht]
  | rename newName =>
    obtain rfl | ht := List.mem_cons.mp ht
    · rfl
    · rw [List.mem_singleton.mp ht]
      rfl

/-- The tables of an event that comes from a bare mention lie in the canonical
    form of the default schema. -/
theorem Naming.schema_of_bare_mention {n : Naming} {m : Mention} {event : TableEvent}
    (hbare : m.IsBare n.dialect) (h : n.event? m = .ok (some event)) :
    ∀ t ∈ event.tables, t.schema = Identifier.canonicalize n.dialect n.defaultSchema := by
  obtain ⟨part, hpart⟩ := hbare
  obtain ⟨table, hparse, rfl⟩ := parse_of_event? h
  intro t ht
  rw [Change.schema_of_mem_tables n.dialect table m.change t ht]
  exact TableRef.schema_of_bare hpart hparse

end Script

/-- Every event is about some table. -/
theorem TableEvent.exists_mem_tables : ∀ event : TableEvent, ∃ t, t ∈ event.tables
  | .created table => ⟨table, List.mem_cons_self⟩
  | .dropped table => ⟨table, List.mem_cons_self⟩
  | .renamed old _ => ⟨old, List.mem_cons_self⟩

/-! ## §2. The schema of a session -/

/-- The schema that a session settles on is not blank. -/
theorem Session.settleSchema_not_blank (d : Dialect) (schema : Text) :
    (settleSchema d schema).trim ≠ [] := by
  unfold settleSchema
  by_cases hblank : (Identifier.canonicalize d schema).trim.isEmpty = true
  · simp only [if_pos hblank]
    cases d with
    | pg => decide
    | ms => decide
    | azure => decide
  · simp only [if_neg hblank]
    intro h
    rw [h] at hblank
    exact hblank rfl

/-- **Where bare names fall.**  In the course of any run of a session that opened,
    a script that is recorded yields the events that its mentions come to.  The
    tables of an event that comes from a bare mention lie in the schema of the
    session if and only if that schema would be written without quotes, in
    lower case and with no white space around it. -/
theorem Run.schema_of_bare_mention_iff {σ : Type} {db : Database σ} {database : Dialect}
    {c : SessionContext} {s₀ s after : Session} {initial state₀ state executed final : σ}
    {visits : List (Visit σ)} {script : Text} {found : Classification}
    (hopen : (Session.openWith database c).run db initial = (.ok (.ok s₀), state₀))
    (run : Run db s₀ state₀ visits s state)
    (hrecord : (s.recordStatement script).run db executed = (.ok (.ok found, after), final)) :
    s.defaultSchema = s₀.defaultSchema
      ∧ (∀ event, event ∈ found.events ↔ ∃ m ∈ mentions c.dialect script,
          Naming.event? ⟨c.dialect, s.defaultSchema⟩ m = .ok (some event))
      ∧ ∀ m ∈ mentions c.dialect script, m.IsBare c.dialect → ∀ event,
          Naming.event? ⟨c.dialect, s.defaultSchema⟩ m = .ok (some event) →
            ((∀ t ∈ event.tables, t.schema = s.defaultSchema)
              ↔ Identifier.isQuoted c.dialect s.defaultSchema = false
                ∧ s.defaultSchema.trim.lowercase = s.defaultSchema) := by
  obtain ⟨schema, rfl⟩ := Session.openWith_run hopen
  have hdialect : s.dialect = c.dialect := run.takesIn.dialect_eq
  have hschema := run.takesIn.defaultSchema
  have hclassify : classify c.dialect s.defaultSchema script = .ok found := by
    -- what the database answers has no part in the classification that is returned
    have hanswer := ((s.recordStatement_ensures script).of_run_eq hrecord).1
    rw [← hdialect]
    cases hclassified : classify s.dialect s.defaultSchema script with
    | error e => rw [hclassified] at hanswer; injection hanswer
    | ok made =>
      rw [hclassified] at hanswer
      have hmade : found = made := by injection hanswer
      rw [hmade]
  refine ⟨hschema, fun event => mem_events_classify hclassify, ?_⟩
  intro m _ hbare event hevent
  have hcanonical := Naming.schema_of_bare_mention hbare hevent
  -- a blank schema would be its own canonical form, but none is settled on
  have hnotBlank : s.defaultSchema.trim ≠ [] := by
    rw [hschema]
    exact Session.settleSchema_not_blank c.dialect schema
  have hfixed := Identifier.canonicalize_eq_self_iff c.dialect s.defaultSchema
  rw [or_iff_right hnotBlank] at hfixed
  rw [← hfixed]
  constructor
  · intro hall
    obtain ⟨t, ht⟩ := event.exists_mem_tables
    rw [← hcanonical t ht]
    exact hall t ht
  · intro hself t ht
    rw [hcanonical t ht]
    exact hself

/-! ## §3. Two sessions of a plain database -/

namespace PlainDatabase

/-- The classification of a drop of one table. -/
def droppedIn (schema : Text) : Classification :=
  ⟨[.dropped (.inSchema schema "t".toList)]⟩

/-- The mention of a script that drops the table `t`. -/
def dropMention : Mention := ⟨"drop".toList, 0, 11, "t".toList, .drop⟩

/-- A new session that classifies that script as a drop records it as one. -/
theorem record_drop {given schema : Text}
    (hclassify : classify (newSession given).dialect (newSession given).defaultSchema
      "DROP TABLE t".toList = .ok (droppedIn schema)) :
    ((newSession given).recordStatement "DROP TABLE t".toList).run database []
      = (.ok (.ok (droppedIn schema), { newSession given with
          registry := ⟨[], [.inSchema schema "t".toList], []⟩ }), []) := by
  have hevents : (Session.recordEvents true (newSession given).begun
      (droppedIn schema).events).run database []
        = (.ok { newSession given with
            registry := ⟨[], [.inSchema schema "t".toList], []⟩, phase := .postProcessing }, []) :=
    rfl
  exact Session.recordStatement_run_of_classify hclassify hevents

end PlainDatabase

open PlainDatabase in
/-- In a schema that is its own canonical form, a bare name stays. -/
theorem Run.schema_of_bare_mention_public :
    (newSession "public".toList).defaultSchema = "public".toList
      ∧ ∀ t ∈ (TableEvent.dropped (.inSchema "public".toList "t".toList)).tables,
          t.schema = (newSession "public".toList).defaultSchema := by
  have hclassify : classify (newSession "public".toList).dialect
      (newSession "public".toList).defaultSchema "DROP TABLE t".toList
        = .ok (droppedIn "public".toList) := by decide +kernel
  have hmention : dropMention ∈ mentions .pg "DROP TABLE t".toList := by
    have hmentions : mentions .pg "DROP TABLE t".toList = [dropMention] := by decide +kernel
    rw [hmentions]
    exact List.mem_cons_self
  obtain ⟨-, -, hbare⟩ := Run.schema_of_bare_mention_iff
    (openWith_context "public".toList []) Run.start (record_drop hclassify)
  refine ⟨by decide, ?_⟩
  exact (hbare dropMention hmention ⟨"t".toList, rfl⟩ _ rfl).mpr ⟨by decide, by decide⟩

open PlainDatabase in
/-- A session whose schema was given in quotes and with a capital drops a bare name
    in another schema. -/
theorem Run.schema_of_bare_mention_ne :
    ∃ found after final,
      (Session.openWith .pg (context "\"Sales\"".toList)).run database []
          = (.ok (.ok (newSession "\"Sales\"".toList)), [])
        ∧ ((newSession "\"Sales\"".toList).recordStatement "DROP TABLE t".toList).run database []
          = (.ok (.ok found, after), final)
        ∧ found.events = [.dropped (.inSchema "sales".toList "t".toList)]
        ∧ (newSession "\"Sales\"".toList).defaultSchema = "Sales".toList
        ∧ "sales".toList ≠ "Sales".toList := by
  have hclassify : classify (newSession "\"Sales\"".toList).dialect
      (newSession "\"Sales\"".toList).defaultSchema "DROP TABLE t".toList
        = .ok (droppedIn "sales".toList) := by decide +kernel
  exact ⟨_, _, _, rfl, record_drop hclassify, rfl, by decide, by decide⟩

end TableLedger
