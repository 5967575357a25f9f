/-
  TableLedger.Settings.Basic — settings read from the environment.

  Every setting has a variable that sets it, a key by which messages name
  it, and a value that it has when the variable is not set.  Numbers and
  switches may be written in words.  Settings are loaded as a whole: a text
  of the wrong type is reported before a dialect that is not known, and
  that before a negative number of days.
-/

import TableLedger.Session.Context
import TableLedger.Text.Shown
import TableLedger.Url.Basic

namespace TableLedger

/-! ## §1. Variables -/

/-- The text of each variable that is set. -/
abbrev Environment := Text → Option Text

namespace Environment

/-- Nothing is set. -/
def empty : Environment := fun _ => none

/-- The environment of named texts; the first of a name counts. -/
def ofList (named : List (Text × Text)) : Environment :=
  fun name => (named.find? fun v => v.1 == name).map Prod.snd

/-- Set a variable unless it is set already. -/
def setIfUnset (env : Environment) (name value : Text) : Environment :=
  fun other => if other = name then some ((env name).getD value) else env other

end Environment

/-- A setting: the variable that sets it, and the key that messages name it by. -/
structure Setting where
  variableName : Text
  key : Text
  deriving DecidableEq, Repr

/-! ## §2. Reading texts -/

namespace Setting

/-- Words that mean yes. -/
def yesWords : List Text := ["true".toList, "on".toList, "yes".toList]

/-- Words that mean no. -/
def noWords : List Text := ["false".toList, "off".toList, "no".toList]

/-- The number that a word stands for. -/
def wordValue? (t : Text) : Option Nat :=
  if yesWords.contains t.lowercase then some 1
  else if noWords.contains t.lowercase then some 0
  else none

/-- A whole number of 64 bits without a sign; a plus may stand in front. -/
def natural? (t : Text) : Option Nat :=
  let digits := if t.head? = some '+' then t.drop 1 else t
  (wordValue? t) <|> (Text.toNat? digits).filter (· < Nat.pow 2 64)

/-- A whole number of 64 bits; a sign may stand in front. -/
def integer? (t : Text) : Option Int :=
  let magnitude : Option Int :=
    match t with
    | '-' :: digits => (Text.toNat? digits).map fun n => -(n : Int)
    | '+' :: digits => (Text.toNat? digits).map Int.ofNat
    | digits => (Text.toNat? digits).map Int.ofNat
  ((wordValue? t).map Int.ofNat)
    <|> magnitude.filter fun n => -Int.pow 2 63 ≤ n && n < Int.pow 2 63

/-- A switch. -/
def switch? (t : Text) : Option Bool :=
  if ("1".toList :: yesWords).contains t.lowercase then some true
  else if ("0".toList :: noWords).contains t.lowercase then some false
  else none

variable (s : Setting) (env : Environment)

/-- The text of a setting. -/
def text (default : Text) : Text := (env s.variableName).getD default

/-- The value that a reader finds in the text of a setting. -/
def read {α : Type} (reader : Text → Option α) (fault : Text → SettingsFault) (default : α) :
    Except SettingsFault α :=
  match env s.variableName with
  | none => .ok default
  | some t =>
    match reader t with
    | some value => .ok value
    | none => .error (fault t)

/-- A text that is not a number. -/
def notInteger (t : Text) : SettingsFault := .wrongType t.shown "an integer".toList s.key

/-- A text that is not a switch; it is shown in lower case. -/
def notSwitch (t : Text) : SettingsFault := .wrongType t.lowercase.shown "a boolean".toList s.key

def natural (default : Nat) : Except SettingsFault Nat :=
  s.read env natural? s.notInteger default

def integer (default : Int) : Except SettingsFault Int :=
  s.read env integer? s.notInteger default

def switch (default : Bool) : Except SettingsFault Bool :=
  s.read env switch? s.notSwitch default

/-! ## §3. The settings there are -/

def url : Setting := ⟨"DATABASE_URL".toList, "database.url".toList⟩

def dialect : Setting := ⟨"DB_DIALECT".toList, "database.dialect".toList⟩

def user : Setting := ⟨"DB_USER".toList, "database.user".toList⟩

def timeout : Setting := ⟨"QUERY_TIMEOUT_SECS".toList, "database.timeout_secs".toList⟩

def expirationDays : Setting :=
  ⟨"TRACKER_EXPIRATION_DAYS".toList, "tracking.expiration_days".toList⟩

def archiveSchema : Setting :=
  ⟨"TRACKER_ARCHIVE_SCHEMA".toList, "tracking.archive_schema".toList⟩

def archiveIsPermanent : Setting :=
  ⟨"TRACKER_ARCHIVE_PERMANENT".toList, "tracking.treat_archive_schema_as_permanent".toList⟩

def cleansLogsOnOpen : Setting :=
  ⟨"TRACKER_CLEAN_LOGS_ON_OPEN".toList, "tracking.clean_logs_on_open".toList⟩

def defaultSchema : Setting :=
  ⟨"TRACKER_DEFAULT_SCHEMA".toList, "tracking.default_schema".toList⟩

def logLevel : Setting := ⟨"RUST_LOG".toList, "logging.level".toList⟩

/-- Every setting. -/
def all : List Setting := [
  url, dialect, user, timeout, expirationDays, archiveSchema, archiveIsPermanent,
  cleansLogsOnOpen, defaultSchema, logLevel]

end Setting

/-! ## §4. Settings -/

/-- The settings of a run. -/
structure Settings where
  /-- Connection URL of the database. -/
  url : Text
  /-- Dialect, by the name that was given. -/
  dialectName : Text
  dialect : Dialect
  /-- User; blank stands for the one in the URL. -/
  user : Text
  timeoutSeconds : Nat
  expirationDays : Int
  archiveSchema : Text
  archiveIsPermanent : Bool
  cleansLogsOnOpen : Bool
  /-- Schema of bare names; blank asks the database. -/
  defaultSchema : Text
  logLevel : Text
  deriving DecidableEq, Repr

namespace Settings

/-- Load the settings that an environment makes. -/
def load (env : Environment) : Except SettingsFault Settings := do
  let timeoutSeconds ← Setting.timeout.natural env 300
  let days ← Setting.expirationDays.integer env SessionContext.defaultExpirationDays
  let archiveIsPermanent ← Setting.archiveIsPermanent.switch env true
  let cleansLogsOnOpen ← Setting.cleansLogsOnOpen.switch env true
  let dialectName := Setting.dialect.text env "pg".toList
  match Dialect.ofName? dialectName with
  | none => throw (.unsupportedDialect dialectName)
  | some dialect =>
    if days < 0 then throw (.negativeExpiration days)
    return {
      url := Setting.url.text env "postgresql://localhost/postgres".toList
      dialectName := dialectName
      dialect := dialect
      user := Setting.user.text env []
      timeoutSeconds := timeoutSeconds
      expirationDays := days
      archiveSchema := Setting.archiveSchema.text env SessionContext.defaultArchiveSchema
      archiveIsPermanent := archiveIsPermanent
      cleansLogsOnOpen := cleansLogsOnOpen
      defaultSchema := Setting.defaultSchema.text env []
      logLevel := Setting.logLevel.text env "info".toList }

/-- The user: the one that is set, or the one in the URL. -/
def sessionUser? (s : Settings) : Option Text :=
  if s.user.trim.isEmpty then Url.user? s.url else some s.user.trim

/-- What a session is told; there must be a user. -/
def context (s : Settings) : Except SettingsFault SessionContext :=
  match s.sessionUser? with
  | none => .error .noUser
  | some user => .ok {
      dialect := s.dialect
      user := user
      defaultSchema := if s.defaultSchema.trim.isEmpty then none else some s.defaultSchema.trim
      expirationDays := s.expirationDays
      archiveSchema := s.archiveSchema
      archiveIsPermanent := s.archiveIsPermanent
      cleansLogsOnOpen := s.cleansLogsOnOpen }

end Settings

end TableLedger
