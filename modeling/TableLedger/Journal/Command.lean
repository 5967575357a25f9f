/-
  TableLedger.Journal.Command — what a journal does to a log.

  The commands are the only statements that a journal issues against a log.
  Each names the log in its text and binds everything else, so its text
  does not depend on the tables, owners and times involved.
-/

import TableLedger.Catalog
import TableLedger.Error
import TableLedger.Journal.Entry

namespace TableLedger

/-- Something that a journal does to the log of one schema. -/
inductive LogCommand where
  /-- Create the log. -/
  | create
  /-- Add a row. -/
  | insert (entry : LogEntry)
  /-- Delete the rows of a table that were written for the schema. -/
  | delete (table : Text)
  /-- Delete the rows of a table, whatever schema they were written for. -/
  | deleteNamed (table : Text)
  /-- Change the table that rows written for the schema name. -/
  | rename (old new : Text)
  /-- List the tables that rows name. -/
  | listTables
  /-- List the tables that rows name whose expiry is before a time. -/
  | listExpired (cutoff : Timestamp)
  deriving DecidableEq, Repr

namespace LogCommand

open Catalog (bindText localName createLog tableNameColumn)

/-- Expiry of an entry as a fragment. -/
def expiryFragment : Option Timestamp → Fragment
  | some t => .bind (.time t)
  | none => .ofString "NULL"

/-- The query for the tables that rows name. -/
def listFragment (d : Dialect) (schema log : Text) : Fragment :=
  .sql ("SELECT DISTINCT table_name AS ".toList ++ tableNameColumn ++ " FROM ".toList
    ++ localName d schema log)

/-- The statement that carries a command out on the log named `log` in `schema`. -/
def statement (d : Dialect) (schema log : Text) : LogCommand → Statement
  | create => createLog d schema log
  | insert e => .ofFragments d [
      .sql ("INSERT INTO ".toList ++ localName d schema log
        ++ " (table_owner, table_schema, table_name, created_on, expires) VALUES (".toList),
      bindText e.owner, .ofString ", ", bindText e.schema, .ofString ", ", bindText e.table,
      .ofString ", ", .bind (.time e.createdOn), .ofString ", ", expiryFragment e.expires,
      .ofString ")"]
  | delete table => .ofFragments d [
      .sql ("DELETE FROM ".toList ++ localName d schema log ++ " WHERE table_schema = ".toList),
      bindText schema, .ofString " AND table_name = ", bindText table]
  | deleteNamed table => .ofFragments d [
      .sql ("DELETE FROM ".toList ++ localName d schema log ++ " WHERE table_name = ".toList),
      bindText table]
  | rename old new => .ofFragments d [
      .sql ("UPDATE ".toList ++ localName d schema log ++ " SET table_name = ".toList),
      bindText new, .ofString " WHERE table_schema = ", bindText schema,
      .ofString " AND table_name = ", bindText old]
  | listTables => .ofFragments d [listFragment d schema log]
  | listExpired cutoff => .ofFragments d [
      listFragment d schema log, .ofString " WHERE expires < ", .bind (.time cutoff)]

/-- The operation that a failed command is reported as. -/
def operation : LogCommand → JournalOperation
  | create => .create
  | insert _ => .insert
  | delete _ | deleteNamed _ => .delete
  | rename _ _ => .update
  | listTables | listExpired _ => .select

end LogCommand

end TableLedger
