/-
  TableLedger.Script.Vocabulary — the statements that touch tables.

  One pattern for each statement form: CREATE TABLE, SELECT INTO,
  DROP TABLE, and the rename forms, of which every dialect has its own.
  Keywords are matched in any case; references are matched as they are
  written, quotes and dots included.
-/

import TableLedger.Pattern.Basic
import TableLedger.Dialect

namespace TableLedger.Script

open Pattern

/-! ## §1. References -/

/-- Characters of a bare name in PostgreSQL. -/
def isBareChar (c : Char) : Bool := Unicode.isWord c || c == '$'

/-- Characters of a bare name in the SQL Server family. -/
def isServerBareChar (c : Char) : Bool := isBareChar c || c == '#' || c == '@'

/-- Text in quotes; a doubled closing mark stands for itself. -/
def quotation (opening closing : Char) : Pattern :=
  char opening ++ many (anyOf [one (· != closing), char closing ++ char closing]) ++ char closing

/-- One part of a dotted reference. -/
def segment : QuoteStyle → Pattern
  | .doubleQuote => anyOf [quotation '"' '"', run1 isBareChar]
  | .bracket => anyOf [quotation '"' '"', quotation '[' ']', run1 isServerBareChar]

/-- What separates the parts; in the SQL Server family a part may be left out. -/
def dots : QuoteStyle → Pattern
  | .doubleQuote => char '.'
  | .bracket => char '.' ++ optional (char '.')

/-- A dotted reference. -/
def reference (style : QuoteStyle) : Pattern :=
  segment style ++ many (dots style ++ segment style)

/-! ## §2. Creating and dropping -/

/-- Words between CREATE or INTO and what is created. -/
def persistence : Pattern :=
  optional
    (anyOf [
      capture .temporary (anyOf [keyword "temp".toList, keyword "temporary".toList]) ++ blanks,
      keyword "unlogged".toList ++ blanks])

/-- A creation by CREATE TABLE. -/
def createTable (style : QuoteStyle) : Pattern :=
  wordEdge ++ keyword "create".toList ++ blanks
    ++ optional (keyword "or".toList ++ blanks ++ keyword "replace".toList ++ blanks)
    ++ optional (anyOf [keyword "global".toList, keyword "local".toList] ++ blanks)
    ++ persistence
    ++ keyword "table".toList ++ blanks
    ++ optional
      (keyword "if".toList ++ blanks ++ keyword "not".toList ++ blanks ++ keyword "exists".toList
        ++ blanks)
    ++ capture .table (reference style)

/-- A creation by SELECT INTO, from its INTO on. -/
def selectInto (style : QuoteStyle) : Pattern :=
  wordEdge ++ keyword "into".toList ++ blanks ++ persistence
    ++ optional (keyword "table".toList ++ blanks)
    ++ capture .table (reference style)

/-- DROP TABLE with its list of tables. -/
def dropTable (style : QuoteStyle) : Pattern :=
  wordEdge ++ keyword "drop".toList ++ blanks ++ keyword "table".toList ++ blanks
    ++ optional (keyword "if".toList ++ blanks ++ keyword "exists".toList ++ blanks)
    ++ capture .tables
      (reference style ++ many (blanks? ++ char ',' ++ blanks? ++ reference style))

/-- The words that begin a statement, or the semicolon that ends one; they tell
    which statement an INTO belongs to. -/
def statementWord : Pattern :=
  anyOf [
    wordEdge
      ++ anyOf [keyword "select".toList, keyword "insert".toList, keyword "merge".toList,
        keyword "update".toList, keyword "delete".toList, keyword "into".toList,
        keyword "create".toList, keyword "alter".toList, keyword "drop".toList,
        keyword "exec".toList, keyword "execute".toList, keyword "values".toList]
      ++ wordEdge,
    char ';']

/-- The word that tells a selection from an assignment. -/
def fromWord : Pattern := wordEdge ++ keyword "from".toList ++ wordEdge

/-! ## §3. Renaming -/

/-- How a rename statement spells its two names. -/
inductive RenameForm where
  /-- `ALTER TABLE old RENAME TO new`. -/
  | alterTable
  /-- `EXEC sp_rename 'old', 'new'`, the names being string literals. -/
  | procedure
  /-- `RENAME OBJECT old TO new`. -/
  | renameObject
  deriving DecidableEq, Repr

/-- The inside of a string literal, in which a doubled quote stands for itself. -/
def literalChar : Pattern := anyOf [one (· != '\''), char '\'' ++ char '\'']

/-- The mark in front of a literal and its opening quote. -/
def literalStart : Pattern := optional (one (isLetter 'n')) ++ char '\''

/-- The rename statement of the given form. -/
def RenameForm.pattern (style : QuoteStyle) : RenameForm → Pattern
  | alterTable =>
    wordEdge ++ keyword "alter".toList ++ blanks ++ keyword "table".toList ++ blanks
      ++ optional (keyword "if".toList ++ blanks ++ keyword "exists".toList ++ blanks)
      ++ optional (keyword "only".toList ++ blanks)
      ++ capture .oldName (reference style)
      ++ blanks ++ keyword "rename".toList ++ blanks ++ keyword "to".toList ++ blanks
      ++ capture .newName (segment style)
  | procedure =>
    wordEdge ++ keyword "sp_rename".toList ++ blanks
      ++ literalStart ++ capture .oldName (literalChar ++ many literalChar) ++ char '\''
      ++ blanks? ++ char ',' ++ blanks?
      ++ literalStart ++ capture .newName (literalChar ++ many literalChar) ++ char '\''
      ++ optional
        (capture .objectType
          (blanks? ++ char ',' ++ blanks? ++ literalStart ++ many literalChar ++ char '\''))
  | renameObject =>
    wordEdge ++ keyword "rename".toList ++ blanks ++ keyword "object".toList
      ++ anyOf [blanks? ++ char ':' ++ char ':' ++ blanks?, blanks]
      ++ capture .oldName (reference style)
      ++ blanks ++ keyword "to".toList ++ blanks
      ++ capture .newName (segment style)

end TableLedger.Script

namespace TableLedger.Dialect

open TableLedger.Script

/-- The rename statements of a dialect. -/
def renameForms : Dialect → List RenameForm
  | pg => [.alterTable]
  | ms => [.procedure]
  | azure => [.procedure, .renameObject]

end TableLedger.Dialect
