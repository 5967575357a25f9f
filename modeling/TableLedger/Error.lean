/-
  TableLedger.Error — failures and their messages.

  A failure is a cause with what is needed to report it.  The database
  reports failed statements; the journal adds which of its operations
  failed and where; sessions and settings add failures of their own.
-/

import TableLedger.TableRef.Parse

namespace TableLedger

/-! ## §1. Statements -/

/-- A statement that the database refused, with the code it gave, if any. -/
structure StatementError where
  message : Text
  code : Option Text
  deriving DecidableEq, Repr

namespace StatementError

/-- Codes by which databases report a missing table. -/
def missingTableCodes : List Text := ["42P01".toList, "3701".toList, "208".toList]

/-- Phrases by which databases report a missing table. -/
def missingTablePhrases : List Text :=
  ["does not exist".toList, "cannot drop the table".toList, "invalid object name".toList]

/-- Whether the statement failed because its table is gone. -/
def isMissingTable (e : StatementError) : Bool :=
  e.code.any missingTableCodes.contains
    || missingTablePhrases.any fun phrase => Text.includes phrase e.message.lowercase

/-- What is reported of the failure. -/
def report (e : StatementError) : Text :=
  let code := match e.code with
    | some code => " (".toList ++ code ++ ")".toList
    | none => []
  "Statement failed".toList ++ code ++ ": ".toList ++ e.message

end StatementError

/-! ## §2. Journals -/

/-- What the journal was doing. -/
inductive JournalOperation where
  | lookup
  | create
  | insert
  | update
  | delete
  | select
  deriving DecidableEq, Repr

def JournalOperation.name : JournalOperation → Text
  | lookup => "lookup".toList
  | create => "create".toList
  | insert => "insert".toList
  | update => "update".toList
  | delete => "delete".toList
  | select => "select".toList

/-- A failed journal operation. -/
structure JournalError where
  schema : Text
  operation : JournalOperation
  cause : StatementError
  deriving DecidableEq, Repr

def JournalError.report (e : JournalError) : Text :=
  "Log table ".toList ++ e.operation.name ++ " failed in schema '".toList ++ e.schema
    ++ "': ".toList ++ e.cause.report

/-! ## §3. Everything together -/

/-- What is wrong with settings. -/
inductive SettingsFault where
  /-- A text that is not of the type its key asks for. -/
  | wrongType (shown expected key : Text)
  | unsupportedDialect (name : Text)
  | negativeExpiration (days : Int)
  | noUser
  deriving DecidableEq, Repr

/-- What is wrong with a connection URL. -/
inductive UrlFault where
  | relativeWithoutBase
  | emptyHost
  | invalidPort
  | invalidIpv6
  | invalidIpv4
  | invalidDomainCharacter
  | invalidDomainName
  deriving DecidableEq, Repr

/-- What makes an input invalid. -/
inductive ValidationFault where
  | dialectMismatch (session database : Dialect)
  | noUser
  | invalidUrl (fault : UrlFault)
  | wrongScheme
  deriving DecidableEq, Repr

/-- Every failure that is reported to a caller. -/
inductive Error where
  | statement (e : StatementError)
  | reference (e : ReferenceError)
  | journal (e : JournalError)
  | settings (fault : SettingsFault)
  | validation (fault : ValidationFault)
  deriving DecidableEq, Repr

def SettingsFault.message : SettingsFault → Text
  | wrongType shown expected key =>
    "invalid type: string ".toList ++ shown ++ ", expected ".toList ++ expected
      ++ " for key \x60".toList ++ key ++ "\x60".toList
  | unsupportedDialect name => Dialect.unsupportedMessage name
  | negativeExpiration days =>
    "tracking.expiration_days must not be negative (got ".toList ++ Text.ofInt days ++ ")".toList
  | noUser => "No user: set DB_USER or put a user name in DATABASE_URL".toList

def UrlFault.message : UrlFault → Text
  | relativeWithoutBase => "relative URL without a base".toList
  | emptyHost => "empty host".toList
  | invalidPort => "invalid port number".toList
  | invalidIpv6 => "invalid IPv6 address".toList
  | invalidIpv4 => "invalid IPv4 address".toList
  | invalidDomainCharacter => "invalid domain character".toList
  | invalidDomainName => "invalid international domain name".toList

def ValidationFault.message : ValidationFault → Text
  | dialectMismatch session database =>
    "Session dialect ".toList ++ session.name ++ " does not match executor dialect ".toList
      ++ database.name
  | noUser => "Session user must not be empty".toList
  | invalidUrl fault => "Invalid PostgreSQL URL: ".toList ++ fault.message
  | wrongScheme => "URL must use postgresql:// or postgres:// scheme".toList

/-- What is reported of a failure. -/
def Error.report : Error → Text
  | statement e => e.report
  | reference e => e.message
  | journal e => e.report
  | settings fault => "Configuration error: ".toList ++ fault.message
  | validation fault => "Validation error: ".toList ++ fault.message

end TableLedger
