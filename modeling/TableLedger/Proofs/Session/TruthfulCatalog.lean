/-
  TableLedger.Proofs.Session.TruthfulCatalog — databases that tell the truth.

  What a cleanup does to a database depends on what the database does with
  the few statements that a session sends it.  `TruthfulCatalog` says what
  is relied on: lookups are answered as things are, a drop takes away the
  table that it names, and bookkeeping takes nothing away.

  Main statements:
    • `TruthfulCatalog.kept_bookkeeping`, `TruthfulCatalog.kept_rowDeletion` —
      what stays as it is during bookkeeping,
    • `PlainDatabase.truthful` — a database that knows tables by their
      quoted names is truthful.
-/

import TableLedger.Proofs.Session.Bookkeeping

namespace TableLedger

open Dialogue

variable {σ τ : Type}

/-! ## §1. Truthful catalogs -/

/-- A database that answers truthfully about its tables.  `holds state x` says
    that the table `x` is there, and `named` is the table that a reference is to. -/
structure TruthfulCatalog (db : Database σ) (d : Dialect) (holds : σ → τ → Prop)
    (named : TableRef → τ) : Prop where
  lookUp_answer : ∀ r state present, (db.lookUp r state).1 = .ok present →
    (present = true ↔ holds state (named r))
  lookUp_holds : ∀ r state x, holds (db.lookUp r state).2 x ↔ holds state x
  askSchema_holds : ∀ state x, holds (db.askSchema state).2 x ↔ holds state x
  readClock_holds : ∀ state x, holds (db.readClock state).2 x ↔ holds state x
  /-- A drop that succeeds takes away the table that it names and no other. -/
  drop_ok : ∀ r state answer x,
    (db.execute (Catalog.dropIfExists d r) state).1 = .ok answer →
      (holds (db.execute (Catalog.dropIfExists d r) state).2 x ↔ holds state x ∧ named r ≠ x)
  /-- A drop that fails takes nothing away. -/
  drop_error : ∀ r state e x,
    (db.execute (Catalog.dropIfExists d r) state).1 = .error e →
      (holds (db.execute (Catalog.dropIfExists d r) state).2 x ↔ holds state x)
  /-- Deleting rows of a log changes no table. -/
  rowDeletion_holds : ∀ s state x, IsRowDeletion d s →
    (holds (db.execute s state).2 x ↔ holds state x)
  /-- Bookkeeping takes no table away. -/
  bookkeeping_keeps : ∀ s state x, IsBookkeeping d s → holds state x →
    holds (db.execute s state).2 x

/-- Whether the database carries out every drop that it is asked for. -/
def DropsSucceed (db : Database σ) (d : Dialect) : Prop :=
  ∀ r state, ∃ answer, (db.execute (Catalog.dropIfExists d r) state).1 = .ok answer

namespace TruthfulCatalog

variable {db : Database σ} {d : Dialect} {holds : σ → τ → Prop} {named : TableRef → τ}

/-- A table that is there stays there during bookkeeping. -/
theorem kept_bookkeeping (hdb : TruthfulCatalog db d holds named) (x : τ) :
    Kept db (IsBookkeeping d) fun state => holds state x where
  execute s state hs h := hdb.bookkeeping_keeps s state x hs h
  lookUp t state h := (hdb.lookUp_holds t state x).mpr h
  askSchema state h := (hdb.askSchema_holds state x).mpr h
  readClock state h := (hdb.readClock_holds state x).mpr h

/-- To delete rows makes no difference to whether a table is there. -/
theorem kept_rowDeletion (hdb : TruthfulCatalog db d holds named) (x : τ) (present : Prop) :
    Kept db (IsRowDeletion d) fun state => (holds state x ↔ present) where
  execute s state hs h := (hdb.rowDeletion_holds s state x hs).trans h
  lookUp t state h := (hdb.lookUp_holds t state x).trans h
  askSchema state h := (hdb.askSchema_holds state x).trans h
  readClock state h := (hdb.readClock_holds state x).trans h

end TruthfulCatalog

/-! ## §2. A database that knows tables by their names -/

namespace PlainDatabase

/-- What follows the given words in a text that begins with them. -/
def behind? (words t : Text) : Option Text :=
  if words.isPrefixOf t then some (t.drop words.length) else none

def dropWords : Text := "DROP TABLE IF EXISTS ".toList

/-- The table that a statement creates unless it is there.  A bare name falls
    into the schema `public`. -/
def createdBy? (sql : Text) : Option Text :=
  (behind? "CREATE TABLE ".toList sql).map fun rest =>
    let name := ((behind? "IF NOT EXISTS ".toList rest).getD rest).takeWhile (· != ' ')
    if name.contains '.' then name else "public.".toList ++ name

/-- The tables after a statement. -/
def tablesAfter (sql : Text) (tables : List Text) : List Text :=
  match behind? dropWords sql with
  | some name => tables.filter (· != name)
  | none =>
    match createdBy? sql with
    | some name => if tables.contains name then tables else tables ++ [name]
    | none => tables

/-- A PostgreSQL database whose state lists the quoted names of its tables. -/
def database : Database (List Text) where
  execute s tables := (.ok ⟨[]⟩, tablesAfter s.sql tables)
  lookUp r tables := (.ok (tables.contains (r.qualified .pg)), tables)
  askSchema tables := (.ok "public".toList, tables)
  readClock tables := (⟨0, 0⟩, tables)

/-- What stands behind words is found behind them. -/
theorem behind?_append (words t : Text) : behind? words (words ++ t) = some t := by
  unfold behind?
  rw [if_pos (by simp), List.drop_left]

/-- No bookkeeping begins with the words of a drop. -/
theorem behind?_dropWords_of_isBookkeeping {d : Dialect} {s : Statement} (h : IsBookkeeping d s) :
    behind? dropWords s.sql = none := by
  cases h with
  | log schema log command => cases d <;> cases command <;> rfl
  | listIndexes r => cases d <;> rfl
  | renameIndex r index newIndex => cases d <;> rfl

/-- To delete rows creates no table. -/
theorem createdBy?_of_isRowDeletion {d : Dialect} {s : Statement} (h : IsRowDeletion d s) :
    createdBy? s.sql = none := by
  obtain ⟨schema, log, table⟩ := h
  cases d <;> rfl

/-- To delete rows leaves the tables alone. -/
theorem tablesAfter_of_isRowDeletion {d : Dialect} {s : Statement} (h : IsRowDeletion d s)
    (tables : List Text) : tablesAfter s.sql tables = tables := by
  unfold tablesAfter
  rw [behind?_dropWords_of_isBookkeeping h.isBookkeeping, createdBy?_of_isRowDeletion h]

/-- A statement that is no drop takes no table away. -/
theorem mem_tablesAfter_of_mem {sql name : Text} {tables : List Text}
    (hsql : behind? dropWords sql = none) (hname : name ∈ tables) :
    name ∈ tablesAfter sql tables := by
  unfold tablesAfter
  rw [hsql]
  show name ∈ match createdBy? sql with
    | some created => if tables.contains created then tables else tables ++ [created]
    | none => tables
  split
  · split
    · exact hname
    · exact List.mem_append_left _ hname
  · exact hname

/-- A drop takes its own table away and no other. -/
theorem mem_tablesAfter_dropIfExists (r : TableRef) (name : Text) (tables : List Text) :
    name ∈ tablesAfter (Catalog.dropIfExists .pg r).sql tables
      ↔ name ∈ tables ∧ r.qualified .pg ≠ name := by
  have hdrop : behind? dropWords (Catalog.dropIfExists .pg r).sql = some (r.qualified .pg) :=
    behind?_append dropWords (r.qualified .pg)
  unfold tablesAfter
  rw [hdrop]
  show name ∈ tables.filter (· != r.qualified .pg) ↔ _
  rw [List.mem_filter, bne_iff_ne]
  exact and_congr_right fun _ => ne_comm

/-- The catalog of the database tells which tables there are. -/
theorem truthful :
    TruthfulCatalog database .pg (fun tables name => name ∈ tables) (·.qualified .pg) where
  lookUp_answer r tables present h := by
    have hpresent : tables.contains (r.qualified .pg) = present := by injection h
    rw [← hpresent]
    exact List.contains_iff_mem
  lookUp_holds _ _ _ := Iff.rfl
  askSchema_holds _ _ := Iff.rfl
  readClock_holds _ _ := Iff.rfl
  drop_ok r tables answer name _ := mem_tablesAfter_dropIfExists r name tables
  drop_error r tables e name h := by injection h
  rowDeletion_holds s tables name hs := by
    show name ∈ tablesAfter s.sql tables ↔ name ∈ tables
    rw [tablesAfter_of_isRowDeletion hs]
  bookkeeping_keeps s tables name hs hname :=
    mem_tablesAfter_of_mem (behind?_dropWords_of_isBookkeeping hs) hname

/-- No drop is refused. -/
theorem dropsSucceed : DropsSucceed database .pg := fun _ _ => ⟨_, rfl⟩

/-- The context of a user who names the default schema. -/
def context (schema : Text) : SessionContext :=
  { SessionContext.ofUser .pg "alice".toList with
    defaultSchema := some schema, cleansLogsOnOpen := false }

/-- The session that opens in that context. -/
def newSession (schema : Text) : Session :=
  ⟨context schema, Session.settleSchema .pg schema, .empty, .idle⟩

theorem openWith_context (schema : Text) (tables : List Text) :
    (Session.openWith .pg (context schema)).run database tables
      = (.ok (.ok (newSession schema)), tables) := rfl

end PlainDatabase

end TableLedger
