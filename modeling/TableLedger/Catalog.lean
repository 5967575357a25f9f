/-
  TableLedger.Catalog — statements about the catalog of a database.

  What a session asks of the catalog (does a table exist, which schemas
  hold a log, which indexes does a table have) and what it changes there
  (drop a table, create a log, rename an index), written for each dialect.
  Names are requoted into the text of a statement; what is only looked up
  is bound to placeholders.
-/

import TableLedger.Statement
import TableLedger.TableRef.Basic

namespace TableLedger.Catalog

/-! ## §1. Columns of the answers -/

/-- Column that says whether a table exists. -/
def presentColumn : Text := "present".toList

/-- Column that names the current schema. -/
def schemaColumn : Text := "schema_name".toList

/-- Column that names the schema of a log. -/
def tableSchemaColumn : Text := "table_schema".toList

/-- Column that names a logged table. -/
def tableNameColumn : Text := "table_name".toList

/-- Column that names an index. -/
def indexNameColumn : Text := "index_name".toList

/-! ## §2. Names -/

/-- Dotted, quoted name of a table of the session's own database. -/
def localName (d : Dialect) (schema table : Text) : Text :=
  (TableRef.inSchema schema table).qualified d

/-- The name by which the SQL Server family looks an object up: without its server. -/
def objectName (d : Dialect) (r : TableRef) : Text := { r with server := none }.qualified d

/-- A fragment that binds a text. -/
def bindText (t : Text) : Fragment := .bind (.text t)

/-! ## §3. Tables -/

/-- Drop a table unless it is gone already. -/
def dropIfExists (d : Dialect) (r : TableRef) : Statement :=
  match d with
  | .pg => .plain ("DROP TABLE IF EXISTS ".toList ++ r.qualified d)
  | .ms | .azure => .ofFragments d [
      .ofString "IF OBJECT_ID(", bindText (objectName d r),
      .sql (", 'U') IS NOT NULL DROP TABLE ".toList ++ r.qualified d)]

/-- Ask whether a table exists. -/
def tableExists (d : Dialect) (r : TableRef) : Statement :=
  match d with
  | .pg => .ofFragments d [
      .ofString "SELECT EXISTS (SELECT 1 FROM pg_tables WHERE schemaname = ", bindText r.schema,
      .ofString " AND tablename = ", bindText r.table,
      .sql (") AS ".toList ++ presentColumn)]
  | .ms | .azure => .ofFragments d [
      .ofString "SELECT CASE WHEN OBJECT_ID(", bindText (objectName d r),
      .sql (", 'U') IS NOT NULL THEN 1 ELSE 0 END AS ".toList ++ presentColumn)]

/-- Ask for the schema that bare names fall into. -/
def currentSchema (d : Dialect) : Statement :=
  let function := match d with
    | .pg => "current_schema()".toList
    | .ms | .azure => "SCHEMA_NAME()".toList
  .plain ("SELECT ".toList ++ function ++ " AS ".toList ++ schemaColumn)

/-! ## §4. Logs -/

/-- Types of the columns of a log. -/
structure LogColumns where
  id : Text
  text : Text
  time : Text

/-- Types of the columns of a log, by dialect.  Synapse takes no primary key
    that it would have to enforce. -/
def logColumns : Dialect → LogColumns
  | .pg => ⟨"SERIAL PRIMARY KEY".toList, "VARCHAR(255)".toList, "TIMESTAMP".toList⟩
  | .ms => ⟨"INT IDENTITY(1,1) PRIMARY KEY".toList, "VARCHAR(255)".toList, "DATETIME".toList⟩
  | .azure => ⟨"INT IDENTITY(1,1) NOT NULL".toList, "VARCHAR(255)".toList, "DATETIME2".toList⟩

/-- Create a log. -/
def createLog (d : Dialect) (schema log : Text) : Statement :=
  let types := logColumns d
  .plain ("CREATE TABLE ".toList ++ localName d schema log ++ " (tbl_id ".toList ++ types.id
    ++ ", table_owner ".toList ++ types.text ++ ", table_schema ".toList ++ types.text
    ++ ", table_name ".toList ++ types.text ++ ", created_on ".toList ++ types.time
    ++ ", expires ".toList ++ types.time ++ ")".toList)

/-- Ask for the schemas that hold a log of the given name. -/
def schemasWithLog (d : Dialect) (log : Text) : Statement :=
  match d with
  | .pg => .ofFragments d [
      .sql ("SELECT DISTINCT schemaname AS ".toList ++ tableSchemaColumn
        ++ " FROM pg_tables WHERE tablename = ".toList),
      bindText log]
  | .ms | .azure => .ofFragments d [
      .sql ("SELECT DISTINCT table_schema AS ".toList ++ tableSchemaColumn
        ++ " FROM information_schema.tables WHERE table_name = ".toList),
      bindText log]

/-! ## §5. Indexes -/

/-- Ask for the indexes of a table. -/
def listIndexes (d : Dialect) (r : TableRef) : Statement :=
  match d with
  | .pg => .ofFragments d [
      .sql ("SELECT indexname AS ".toList ++ indexNameColumn
        ++ " FROM pg_indexes WHERE schemaname = ".toList),
      bindText r.schema, .ofString " AND tablename = ", bindText r.table]
  | .ms | .azure => .ofFragments d [
      .sql ("SELECT name AS ".toList ++ indexNameColumn
        ++ " FROM sys.indexes WHERE name IS NOT NULL AND object_id = OBJECT_ID(".toList),
      bindText (objectName d r), .ofString ")"]

/-- Rename an index of a table. -/
def renameIndex (d : Dialect) (r : TableRef) (index newIndex : Text) : Statement :=
  match d with
  | .pg => .plain ("ALTER INDEX ".toList ++ localName d r.schema index ++ " RENAME TO ".toList
      ++ Identifier.requote d newIndex)
  | .ms | .azure => .ofFragments d [
      .ofString "EXEC sp_rename ",
      bindText (localName d r.schema r.table ++ '.' :: Identifier.requote d index),
      .ofString ", ", bindText newIndex, .ofString ", 'INDEX'"]

end TableLedger.Catalog
