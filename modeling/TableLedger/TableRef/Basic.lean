/-
  TableLedger.TableRef.Basic — references to tables.

  A reference holds the canonical parts of a dotted name.  Schema and table
  are always known; server and database only where the script spelled them
  out.  Two references are to the same table when their known parts agree.
-/

import TableLedger.Identifier

namespace TableLedger

/-- A table, by the canonical parts of its dotted name. -/
structure TableRef where
  server : Option Text
  database : Option Text
  schema : Text
  table : Text
  deriving DecidableEq, Repr

namespace TableRef

/-- A table of the session's own database. -/
def inSchema (schema table : Text) : TableRef := ⟨none, none, schema, table⟩

/-- Whether the reference names neither a server nor a database. -/
def isLocal (r : TableRef) : Bool := r.server.isNone && r.database.isNone

/-- The reference without its server and database. -/
def toLocal (r : TableRef) : TableRef := inSchema r.schema r.table

/-- Another table name at the same place. -/
def withName (r : TableRef) (table : Text) : TableRef := { r with table := table }

/-- Two qualifiers agree unless both are known and differ. -/
def agree : Option Text → Option Text → Bool
  | some a, some b => a == b
  | _, _ => true

/-- Schema and table are equal, and the qualifiers known on both sides agree. -/
def sameTable (r s : TableRef) : Bool :=
  r.schema == s.schema && r.table == s.table && agree r.database s.database
    && agree r.server s.server

/-- The known parts, from the server to the table. -/
def parts (r : TableRef) : List Text :=
  r.server.toList ++ r.database.toList ++ [r.schema, r.table]

/-- The parts as they are, joined by dots; for messages. -/
def display (r : TableRef) : Text := Text.join ['.'] r.parts

/-- The parts requoted for `d` and joined by dots; for statements. -/
def qualified (r : TableRef) (d : Dialect) : Text :=
  Text.join ['.'] (r.parts.map (Identifier.requote d))

end TableRef

end TableLedger
