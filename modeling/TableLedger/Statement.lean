/-
  TableLedger.Statement — statements with bound parameters.

  A statement is assembled from fragments: SQL text and values to bind.
  Every bound value is replaced by a placeholder, and the placeholders are
  numbered from one in the order of the values, so the text of a statement
  does not depend on the values bound to it.
-/

import TableLedger.Dialect
import TableLedger.Timestamp

namespace TableLedger

/-- A value bound to a placeholder. -/
inductive Param where
  | text (t : Text)
  | int (n : Int)
  | time (t : Timestamp)
  deriving DecidableEq, Repr

/-- SQL text with the values of its placeholders, in order. -/
structure Statement where
  sql : Text
  params : List Param
  deriving DecidableEq, Repr

/-- A piece of a statement. -/
inductive Fragment where
  | sql (t : Text)
  | bind (value : Param)
  deriving DecidableEq, Repr

namespace Statement

/-- A statement without parameters; it may be a whole script. -/
def plain (sql : Text) : Statement := ⟨sql, []⟩

/-- SQL text of the fragments, the first placeholder being numbered `index`. -/
def sqlFrom (d : Dialect) (index : Nat) : List Fragment → Text
  | [] => []
  | .sql t :: rest => t ++ sqlFrom d index rest
  | .bind _ :: rest => d.placeholder index ++ sqlFrom d (index + 1) rest

/-- The statement that fragments make up. -/
def ofFragments (d : Dialect) (fragments : List Fragment) : Statement :=
  ⟨sqlFrom d 1 fragments, fragments.filterMap fun
    | .bind value => some value
    | .sql _ => none⟩

end Statement

/-- A fragment of literal SQL. -/
def Fragment.ofString (s : String) : Fragment := .sql s.toList

end TableLedger
