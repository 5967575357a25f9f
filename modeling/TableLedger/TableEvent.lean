/-
  TableLedger.TableEvent — what a script does to tables.

  A script is classified as the list of its table events, in the order in
  which they appear.  Three views are read off it: the tables created, the
  tables dropped, and the renames, of which the last one onto a name
  counts while the first one settles its place.
-/

import TableLedger.TableRef.Basic

namespace TableLedger

/-- One thing that a script does to a table. -/
inductive TableEvent where
  | created (table : TableRef)
  | dropped (table : TableRef)
  | renamed (old new : TableRef)
  deriving DecidableEq, Repr

/-! ## §1. Renames -/

/-- A new name with the old name it replaces. -/
structure Rename where
  new : TableRef
  old : TableRef
  deriving DecidableEq, Repr

/-- Renames by new name, in the order in which the new names were first used. -/
abbrev Renames := List Rename

namespace Renames

/-- Record a rename; one onto a name already recorded takes its place. -/
def record (new old : TableRef) : Renames → Renames
  | [] => [⟨new, old⟩]
  | r :: rest => if r.new = new then ⟨new, old⟩ :: rest else r :: record new old rest

/-- The old name recorded for a new one. -/
def old? (new : TableRef) (rs : Renames) : Option TableRef :=
  (rs.find? fun r => r.new == new).map Rename.old

end Renames

/-! ## §2. Classifications -/

/-- What a script does to tables, in order. -/
structure Classification where
  events : List TableEvent
  deriving DecidableEq, Repr

namespace Classification

/-- Tables created, in order, repetitions kept. -/
def created (c : Classification) : List TableRef :=
  c.events.filterMap fun
    | .created table => some table
    | _ => none

/-- Tables dropped, in order, repetitions kept. -/
def dropped (c : Classification) : List TableRef :=
  c.events.filterMap fun
    | .dropped table => some table
    | _ => none

/-- Renames by new name. -/
def renamed (c : Classification) : Renames :=
  c.events.foldl
    (fun renames event =>
      match event with
      | .renamed old new => renames.record new old
      | _ => renames)
    []

/-- Whether the script touches no table. -/
def isEmpty (c : Classification) : Bool := c.events.isEmpty

end Classification

end TableLedger
