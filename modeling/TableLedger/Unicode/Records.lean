/-
  TableLedger.Unicode.Records — what belongs to code points.

  A table of records is written as a text: records are divided by
  semicolons, and each is a code point or a range of them, followed by the
  code points or numbers that belong to it, all in hexadecimal.  Records
  stand in the order of their code points.
-/

import TableLedger.Text.Basic
import TableLedger.Unicode.Bisection

namespace TableLedger.Unicode

/-! ## §1. One record -/

/-- What belongs to the code points from `first` to `last`. -/
structure Record where
  first : Nat
  last : Nat
  values : List Nat
  deriving DecidableEq, Repr

namespace Record

/-- The words of a text, which stand between blanks and line breaks. -/
def words (t : Text) : List Text :=
  (Text.splitOn ' ' (t.map fun c => if c = '\n' then ' ' else c)).filter (!·.isEmpty)

/-- Read a record, as `41-5A 61` or `BD 31 2044 32`. -/
def read? (t : Text) : Option Record := do
  let (range, values) ← match words t with
    | [] => none
    | range :: values => some (range, values)
  let ends ← (Text.splitOn '-' range).mapM (Text.numberInBase? 16)
  return ⟨← ends.head?, ← ends.getLast?, ← values.mapM (Text.numberInBase? 16)⟩

/-- The values, the first of them as far beyond as `n` is beyond the start of
    the range. -/
def shifted (r : Record) (n : Nat) : List Nat :=
  match r.values with
  | [] => []
  | v :: rest => (v + (n - r.first)) :: rest

end Record

/-! ## §2. Tables of records -/

/-- A table of records, in the order of their code points. -/
structure Records where
  entries : Array Record

namespace Records

/-- Read a table. -/
def read (s : String) : Records :=
  ⟨((Text.splitOn ';' s.toList).filterMap Record.read?).toArray⟩

/-- The record that a code point belongs to. -/
def find? (t : Records) (n : Nat) : Option Record :=
  let passed (i : Nat) : Bool := t.entries[i]?.any (·.last < n)
  t.entries[bisect passed t.entries.size 0 t.entries.size]?.filter (·.first ≤ n)

end Records

end TableLedger.Unicode
