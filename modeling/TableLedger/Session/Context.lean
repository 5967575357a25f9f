/-
  TableLedger.Session.Context — what a session is told by its caller.
-/

import TableLedger.Dialect

namespace TableLedger

/-- What a session needs to know about its caller. -/
structure SessionContext where
  dialect : Dialect
  /-- Owner of the log rows; the log is named after this user. -/
  user : Text
  /-- Schema of bare names, if it is not to be asked of the database. -/
  defaultSchema : Option Text
  expirationDays : Int
  archiveSchema : Text
  /-- Whether tables of the archive schema are never logged. -/
  archiveIsPermanent : Bool
  /-- Whether the logs are housekept when the session opens. -/
  cleansLogsOnOpen : Bool
  deriving DecidableEq, Repr

namespace SessionContext

def defaultExpirationDays : Int := 7

def defaultArchiveSchema : Text := "archive".toList

/-- The context of a user who asks for nothing special. -/
def ofUser (d : Dialect) (user : Text) : SessionContext :=
  ⟨d, user, none, defaultExpirationDays, defaultArchiveSchema, true, true⟩

/-- The schema whose tables are never logged, if there is one. -/
def permanentSchema? (c : SessionContext) : Option Text :=
  if c.archiveIsPermanent then some c.archiveSchema else none

end SessionContext

/-- How a statement is to be executed. -/
structure QueryOptions where
  /-- Whether failures are reported rather than passed over. -/
  strict : Bool
  /-- Whether created tables are to expire. -/
  temporary : Bool
  /-- Whether the statement is not to be recorded. -/
  unrecorded : Bool
  deriving DecidableEq, Repr

namespace QueryOptions

/-- Report failures and let created tables expire. -/
def standard : QueryOptions := ⟨true, true, false⟩

/-- Created tables are to stay. -/
def permanent : QueryOptions := { standard with temporary := false }

/-- Failures are passed over. -/
def bestEffort : QueryOptions := { standard with strict := false }

/-- The statement is not recorded. -/
def unrecordedOnly : QueryOptions := { standard with unrecorded := true }

end QueryOptions

end TableLedger
