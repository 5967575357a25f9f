/-
  TableLedger.Proofs.Journal.LogText — how the statements about a log are written.

  What a statement about a log says of tables, owners and times it binds: two
  commands that differ in these values only have the same text.  The text is cut
  by its placeholders, and these are numbered from one, without a gap, in the
  order of the values.

  Main statements:
    • `Statement.sqlFrom_eq_weave` — a text and its placeholders,
    • `LogCommand.sql_eq_of_alike` — the text does not depend on the values.
-/

import TableLedger.Proofs.Journal.LogSql

namespace TableLedger

/-! ## §1. Placeholders -/

namespace Statement

/-- Pieces of text with placeholders between them, the first of which is numbered
    `index`. -/
def weave (d : Dialect) (index : Nat) : List Text → Text
  | [] => []
  | [piece] => piece
  | piece :: next :: rest => piece ++ d.placeholder index ++ weave d (index + 1) (next :: rest)

/-- The pieces of text between the values of fragments. -/
def pieces : List Fragment → List Text
  | [] => [[]]
  | .sql t :: rest => (t ++ (pieces rest).headD []) :: (pieces rest).tail
  | .bind _ :: rest => [] :: pieces rest

theorem pieces_ne_nil (fragments : List Fragment) : pieces fragments ≠ [] := by
  cases fragments with
  | nil => exact List.cons_ne_nil _ _
  | cons fragment rest => cases fragment <;> exact List.cons_ne_nil _ _

/-- Text in front of the first piece stands in front of all. -/
theorem weave_append_cons (d : Dialect) (index : Nat) (t piece : Text) (rest : List Text) :
    weave d index ((t ++ piece) :: rest) = t ++ weave d index (piece :: rest) := by
  cases rest with
  | nil => rfl
  | cons next rest => simp [weave, List.append_assoc]

/-- The text of fragments is their pieces with numbered placeholders between them. -/
theorem sqlFrom_eq_weave (d : Dialect) (index : Nat) (fragments : List Fragment) :
    sqlFrom d index fragments = weave d index (pieces fragments) := by
  induction fragments generalizing index with
  | nil => rfl
  | cons fragment rest ih =>
    obtain ⟨piece, others, hrest⟩ := List.exists_cons_of_ne_nil (pieces_ne_nil rest)
    cases fragment with
    | sql t =>
      rw [sqlFrom, ih, pieces, hrest]
      exact (weave_append_cons d index t piece others).symm
    | bind value =>
      rw [sqlFrom, ih, pieces, hrest]
      rfl

/-- There is one piece more than there are values. -/
theorem length_pieces (d : Dialect) (fragments : List Fragment) :
    (pieces fragments).length = (ofFragments d fragments).params.length + 1 := by
  induction fragments with
  | nil => rfl
  | cons fragment rest ih =>
    cases fragment with
    | sql t =>
      have hpositive : 0 < (pieces rest).length := List.length_pos_iff.mpr (pieces_ne_nil rest)
      rw [pieces, List.length_cons, List.length_tail, Nat.sub_add_cancel hpositive]
      exact ih
    | bind value => exact congrArg (· + 1) ih

/-- The placeholders of the statement are numbered from one in the order of its
    values: there is one of them behind every piece of its text but the last. -/
def Numbered (d : Dialect) (s : Statement) : Prop :=
  ∃ texts, texts.length = s.params.length + 1 ∧ s.sql = weave d 1 texts

/-- The placeholders of fragments are numbered without a gap. -/
theorem numbered_ofFragments (d : Dialect) (fragments : List Fragment) :
    (ofFragments d fragments).Numbered d :=
  ⟨pieces fragments, length_pieces d fragments, sqlFrom_eq_weave d 1 fragments⟩

end Statement

/-! ## §2. Values -/

/-- Commands that differ in their tables, owners, schemas and times only. -/
inductive LogCommand.Alike : LogCommand → LogCommand → Prop where
  | create : Alike .create .create
  | insert {e f : LogEntry} (h : e.expires.isSome = f.expires.isSome) :
      Alike (.insert e) (.insert f)
  | delete (table other : Text) : Alike (.delete table) (.delete other)
  | deleteNamed (table other : Text) : Alike (.deleteNamed table) (.deleteNamed other)
  | rename (old new otherOld otherNew : Text) : Alike (.rename old new) (.rename otherOld otherNew)
  | listTables : Alike .listTables .listTables
  | listExpired (cutoff other : Timestamp) : Alike (.listExpired cutoff) (.listExpired other)

/-- The text of a statement does not depend on the values that it binds. -/
theorem LogCommand.sql_eq_of_alike {command other : LogCommand} (h : command.Alike other)
    (d : Dialect) (schema log : Text) :
    (command.statement d schema log).sql = (other.statement d schema log).sql := by
  cases h with
  | create | delete | deleteNamed | rename | listTables | listExpired => rfl
  | @insert e f hexpires =>
    obtain ⟨owner, schemaCell, table, createdOn, expires⟩ := e
    obtain ⟨otherOwner, otherSchema, otherTable, otherCreatedOn, others⟩ := f
    -- an expiry has a placeholder, and there is none for a table that never expires
    cases expires with
    | none =>
      cases others with
      | none => rfl
      | some expiry => exact absurd hexpires Bool.false_ne_true
    | some expiry =>
      cases others with
      | none => exact absurd hexpires.symm Bool.false_ne_true
      | some other => rfl

/-- The texts that a statement about a log binds for the column of the schemas. -/
def LogSql.schemas : LogSql → List Text
  | insert e => [e.schema]
  | delete conditions => (conditions.filter (·.column = .schema)).map LogCell.text
  | update change conditions => ((change :: conditions).filter (·.column = .schema)).map LogCell.text
  | create | select _ => []

end TableLedger
