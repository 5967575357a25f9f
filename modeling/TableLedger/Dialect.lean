/-
  TableLedger.Dialect — the three flavours of SQL.

  A dialect decides how identifiers are quoted, which schema a bare name
  falls into, and how bound parameters are written.  The two members of
  the SQL Server family agree on all of that and differ only in their
  rename statements and log columns.
-/

import TableLedger.Text.Basic

namespace TableLedger

/-- A flavour of SQL: PostgreSQL, SQL Server or Azure Synapse. -/
inductive Dialect where
  | pg
  | ms
  | azure
  deriving DecidableEq, Repr

/-- How a dialect quotes identifiers. -/
inductive QuoteStyle where
  /-- Double quotes only. -/
  | doubleQuote
  /-- Square brackets, double quotes being accepted as well. -/
  | bracket
  deriving DecidableEq, Repr

namespace Dialect

/-- Short name of the dialect. -/
def name : Dialect → Text
  | pg => "pg".toList
  | ms => "ms".toList
  | azure => "azure".toList

def quoteStyle : Dialect → QuoteStyle
  | pg => .doubleQuote
  | ms | azure => .bracket

/-- Whether the dialect belongs to the SQL Server family. -/
def isServerFamily : Dialect → Bool
  | pg => false
  | ms | azure => true

/-- Schema that bare names fall into when nothing else is known. -/
def fallbackSchema : Dialect → Text
  | pg => "public".toList
  | ms | azure => "dbo".toList

/-- Placeholder of the `index`-th bound parameter, counted from one. -/
def placeholder (d : Dialect) (index : Nat) : Text :=
  match d with
  | pg => '$' :: Text.ofNat index
  | ms | azure => "@P".toList ++ Text.ofNat index

/-- The dialect that a name or one of its synonyms stands for, in any case. -/
def ofName? (t : Text) : Option Dialect :=
  let lower := t.lowercase
  if ["pg".toList, "postgres".toList, "postgresql".toList].contains lower then some pg
  else if ["ms".toList, "mssql".toList, "sqlserver".toList].contains lower then some ms
  else if ["azure".toList, "synapse".toList].contains lower then some azure
  else none

/-- What is reported of a name that stands for no dialect. -/
def unsupportedMessage (t : Text) : Text := "Unsupported dialect: ".toList ++ t

end Dialect

end TableLedger
