/-
  TableLedger.Registry — the tables that one session made.

  The registry lists the tables that the session created and believes to
  exist, and the tables that it dropped or renamed away.  A drop or a
  rename applies to the entry that equals its reference or, failing that,
  to the first one that differs from it in unknown qualifiers only.
-/

import TableLedger.TableEvent

namespace TableLedger

/-- Tables created and dropped by a session. -/
structure Registry where
  /-- Tables created and believed to exist, in order, without repetition. -/
  created : List TableRef
  /-- Tables dropped or renamed away, in order. -/
  dropped : List TableRef
  /-- Renames of the latest statement. -/
  renames : Renames
  deriving DecidableEq, Repr

namespace Registry

/-- The registry of a session that has done nothing. -/
def empty : Registry := ⟨[], [], []⟩

/-- Whether exactly this table is listed as created. -/
def tracks (r : Registry) (table : TableRef) : Bool := r.created.contains table

/-- The entry that a reference is to. -/
def entryFor? (created : List TableRef) (table : TableRef) : Option TableRef :=
  created.find? (· == table) <|> created.find? (·.sameTable table)

/-- Whether a reference is to a table listed as created. -/
def knows (r : Registry) (table : TableRef) : Bool := (entryFor? r.created table).isSome

/-- Start a new statement. -/
def beginStatement (r : Registry) : Registry := { r with renames := [] }

/-- List a table as created, once. -/
def recordCreated (r : Registry) (table : TableRef) : Registry :=
  if r.created.contains table then r else { r with created := r.created ++ [table] }

/-- Take the entry of a dropped table away. -/
def recordDropped (r : Registry) (table : TableRef) : Registry :=
  let created := match entryFor? r.created table with
    | some entry => r.created.erase entry
    | none => r.created
  { r with created := created, dropped := r.dropped ++ [table] }

/-- Keep the first occurrence of `table` and remove the others. -/
def keepFirst (table : TableRef) : List TableRef → List TableRef
  | [] => []
  | t :: rest => if t = table then t :: rest.filter (· != table) else t :: keepFirst table rest

/-- Give the entry of a renamed table its new name, in place.  It keeps its
    qualifiers and takes the place of an entry that had that name before. -/
def recordRenamed (r : Registry) (old new : TableRef) : Registry :=
  let created := match entryFor? r.created old with
    | some entry =>
      let renamed := entry.withName new.table
      keepFirst renamed (r.created.replace entry renamed)
    | none => r.created
  { created := created, dropped := r.dropped ++ [old], renames := r.renames.record new old }

/-- Hand the list of created tables over, leaving it empty. -/
def takeCreated (r : Registry) : List TableRef × Registry := (r.created, { r with created := [] })

/-- Record one event of a script. -/
def record (r : Registry) : TableEvent → Registry
  | .created table => r.recordCreated table
  | .dropped table => r.recordDropped table
  | .renamed old new => r.recordRenamed old new

end Registry

end TableLedger
