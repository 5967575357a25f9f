/-
  TableLedger.Journal.Entry — the rows of a log and the name of its table.

  Every user has a log of the tables that are to expire, in each schema
  that holds one of them.  The table of the log is named after the user, in
  characters that need no quoting in any dialect.
-/

import TableLedger.Timestamp

namespace TableLedger

/-- A row of a log. -/
structure LogEntry where
  owner : Text
  schema : Text
  table : Text
  createdOn : Timestamp
  /-- When the table expires; a permanent table never does. -/
  expires : Option Timestamp
  deriving DecidableEq, Repr

/-- Whether the table of the entry has expired before `now`. -/
def LogEntry.isExpiredAt (e : LogEntry) (now : Timestamp) : Bool := e.expires.any (·.before now)

namespace LogName

/-- A character as it may stand in the name of a log. -/
def sanitize (c : Char) : Char := if c.isAlphanum || c == '_' then c else '_'

/-- Name of the log of a user. -/
def ofUser (user : Text) : Text :=
  "__temp_log_table_".toList ++ user.trim.lowercase.map sanitize ++ "__".toList

end LogName

end TableLedger
