/-
  TableLedger.CommandLine.Basic — the commands of the program.

  `classify` prints what a script does to tables.  `run` executes a script
  and `housekeep` cleans the logs; both need a PostgreSQL database.  Bad
  arguments end the program with status 2, a file of variables that asks for
  the impossible with status 101, any other failure with status 1; nothing
  is printed then.  Settings are loaded before a command looks at its
  file.
-/

import TableLedger.CommandLine.Arguments
import TableLedger.Report
import TableLedger.Script.Classify
import TableLedger.Settings.EnvFile

namespace TableLedger.CommandLine

/-! ## §1. Commands -/

/-- What the program is asked to do. -/
inductive Command where
  /-- Print what a script does to tables. -/
  | classify (file : Text) (dialect : Option Dialect) (schema : Option Text)
  /-- Execute a script and print the tables it touched. -/
  | run (file : Text) (temporary cleanup : Bool)
  /-- Drop expired tables and delete stale log rows. -/
  | housekeep
  deriving DecidableEq, Repr

def dialectOption : ValuedOption := ⟨'d', "dialect".toList⟩

def schemaOption : ValuedOption := ⟨'s', "schema".toList⟩

def permanentFlag : Text := "no-temp".toList

def cleanupFlag : Text := "cleanup".toList

/-- A dialect by its short name. -/
def dialect (name : Text) : Except UsageFault Dialect :=
  match [Dialect.pg, Dialect.ms, Dialect.azure].find? (·.name == name) with
  | some d => .ok d
  | none => .error (.invalidValue dialectOption.name name)

/-- The file that a command cannot do without. -/
def requiredFile (a : Arguments) : Except UsageFault Text :=
  match a.file with
  | some file => .ok file
  | none => .error .missingFile

/-- Read the arguments of the program. -/
def Command.read : List Text → Except UsageFault Command
  | [] => .error .noCommand
  | name :: rest =>
    if name = "classify".toList then do
      let a ← Shape.read ⟨[dialectOption, schemaOption], [], true⟩ rest
      let d ← (a.value? dialectOption.name).mapM dialect
      return .classify (← requiredFile a) d (a.value? schemaOption.name)
    else if name = "run".toList then do
      let a ← Shape.read ⟨[], [permanentFlag, cleanupFlag], true⟩ rest
      return .run (← requiredFile a) (!a.flags.contains permanentFlag)
        (a.flags.contains cleanupFlag)
    else if name = "housekeep".toList then do
      discard <| Shape.read ⟨[], [], false⟩ rest
      return .housekeep
    else .error (.unknownCommand name)

/-- The file that a command reads. -/
def Command.file? : Command → Option Text
  | classify file _ _ => some file
  | run file _ _ => some file
  | housekeep => none

/-! ## §2. Outcomes -/

/-- Why a command failed. -/
inductive Failure where
  | error (e : Error)
  /-- A file of variables that gives one of them a NUL. -/
  | unusableVariables
  /-- A file that is missing or not in UTF-8. -/
  | unreadable (file : Text)
  /-- A dialect other than PostgreSQL. -/
  | foreignDialect (d : Dialect)
  | noConnection
  deriving DecidableEq, Repr

def Failure.message : Failure → Text
  | error e => e.report
  | unusableVariables => "A variable cannot hold a NUL".toList
  | unreadable file => "Failed to read ".toList ++ file
  | foreignDialect d =>
    "Only PostgreSQL databases can be reached; DB_DIALECT is ".toList ++ d.name
  | noConnection => "No database can be reached".toList

/-- The status that the program ends with after a failure. -/
def Failure.status : Failure → Nat
  | unusableVariables => 101
  | _ => 1

/-- How a run of the program ends. -/
structure Outcome where
  status : Nat
  output : Text
  /-- What is said of a failure. -/
  complaint : Text
  deriving DecidableEq, Repr

/-- What the program finds around it. -/
structure Surroundings where
  environment : Environment
  /-- The bytes of the file that sets further variables. -/
  envFile : Option (List UInt8)
  /-- The bytes of a file. -/
  file : Text → Option (List UInt8)

namespace Surroundings

/-- The environment with the variables of the file. -/
def fullEnvironment (s : Surroundings) : Except Failure Environment :=
  match s.envFile with
  | some file =>
    match EnvFile.extend s.environment file with
    | some env => .ok env
    | none => .error .unusableVariables
  | none => .ok s.environment

/-- The text of a script file. -/
def script (s : Surroundings) (file : Text) : Except Failure Text :=
  match (s.file file).bind Text.ofUtf8? with
  | some t => .ok t
  | none => .error (.unreadable file)

end Surroundings

/-! ## §3. Carrying out -/

/-- The summary of a script, as it is printed. -/
def classification (d : Dialect) (schema : Option Text) (script : Text) : Except Failure Text :=
  match Script.classify d (schema.getD d.fallbackSchema) script with
  | .ok c => .ok (c.reportText ++ ['\n'])
  | .error e => .error (.error (.reference e))

/-- Connect to the database of the settings.  The program is built without a
    connection, so the best that can come of it is that none is there. -/
def connect (s : Settings) : Except Failure Text := do
  let context ← s.context.mapError fun fault => .error (.settings fault)
  if context.dialect ≠ .pg then throw (.foreignDialect context.dialect)
  (Url.validate s.url).mapError fun fault => .error (.validation fault)
  throw .noConnection

/-- Carry out a command; what it prints, or why it failed. -/
def Command.perform (s : Surroundings) (settings : Settings) : Command → Except Failure Text
  | classify file d schema => do
    classification (d.getD settings.dialect) schema (← s.script file)
  | run file _ _ => do
    discard <| s.script file
    connect settings
  | housekeep => connect settings

/-- Load the settings and carry out a command. -/
def Command.execute (s : Surroundings) (c : Command) : Except Failure Text := do
  let environment ← s.fullEnvironment
  let settings ← (Settings.load environment).mapError fun fault => .error (.settings fault)
  c.perform s settings

/-- Run the program. -/
def run (arguments : List Text) (s : Surroundings) : Outcome :=
  match Command.read arguments with
  | .error fault => ⟨2, [], fault.message⟩
  | .ok command =>
    match command.execute s with
    | .ok output => ⟨0, output, []⟩
    | .error failure => ⟨failure.status, [], failure.message⟩

end TableLedger.CommandLine
