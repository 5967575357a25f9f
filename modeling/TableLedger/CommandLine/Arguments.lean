/-
  TableLedger.CommandLine.Arguments — reading the arguments of a command.

  The arguments of a command are options with a value, flags, and at most
  one file.  A value follows its option, or is attached to it; two hyphens
  end the options.  Nothing may be given twice, and nothing may be given
  that the command does not take.
-/

import TableLedger.Text.Basic

namespace TableLedger.CommandLine

/-! ## §1. Faults -/

/-- What is wrong with arguments. -/
inductive UsageFault where
  | noCommand
  | unknownCommand (name : Text)
  | unknownOption (argument : Text)
  /-- An argument that the command has no use for. -/
  | unexpected (argument : Text)
  | repeated (name : Text)
  | missingValue (name : Text)
  | invalidValue (name value : Text)
  /-- A flag takes no value. -/
  | valueOfFlag (name : Text)
  | missingFile
  deriving DecidableEq, Repr

def UsageFault.message : UsageFault → Text
  | noCommand => "a command is required: classify, run or housekeep".toList
  | unknownCommand name => "unknown command ".toList ++ name
  | unknownOption argument => "unknown option ".toList ++ argument
  | unexpected argument => "unexpected argument ".toList ++ argument
  | repeated name => "--".toList ++ name ++ " cannot be given twice".toList
  | missingValue name => "--".toList ++ name ++ " needs a value".toList
  | invalidValue name value => "--".toList ++ name ++ " cannot be ".toList ++ value
  | valueOfFlag name => "--".toList ++ name ++ " takes no value".toList
  | missingFile => "a file is required".toList

/-! ## §2. What a command takes -/

/-- An option with a value. -/
structure ValuedOption where
  letter : Char
  name : Text
  deriving DecidableEq, Repr

/-- What a command takes. -/
structure Shape where
  options : List ValuedOption
  flags : List Text
  takesFile : Bool
  deriving DecidableEq, Repr

/-- What a command was given. -/
structure Arguments where
  /-- Values by the names of their options. -/
  values : List (Text × Text)
  flags : List Text
  file : Option Text
  deriving DecidableEq, Repr

namespace Arguments

/-- Nothing given. -/
def empty : Arguments := ⟨[], [], none⟩

/-- The value of an option. -/
def value? (a : Arguments) (name : Text) : Option Text :=
  (a.values.find? fun v => v.1 == name).map Prod.snd

/-- Give an option a value. -/
def addValue (a : Arguments) (name value : Text) : Except UsageFault Arguments :=
  if (a.value? name).isSome then .error (.repeated name)
  else .ok { a with values := a.values ++ [(name, value)] }

/-- Set a flag. -/
def addFlag (a : Arguments) (name : Text) : Except UsageFault Arguments :=
  if a.flags.contains name then .error (.repeated name)
  else .ok { a with flags := a.flags ++ [name] }

/-- Give the file, whose name may not be empty. -/
def addFile (shape : Shape) (a : Arguments) (name : Text) : Except UsageFault Arguments :=
  if !shape.takesFile || a.file.isSome then .error (.unexpected name)
  else if name.isEmpty then .error .missingFile
  else .ok { a with file := some name }

end Arguments

/-! ## §3. Reading -/

/-- What one argument is. -/
inductive Reading where
  | plain
  | endOfOptions
  | flag (name : Text)
  /-- An option, with the value attached to it. -/
  | option (name : Text) (attached : Option Text)
  | wrong (fault : UsageFault)
  deriving DecidableEq, Repr

namespace Shape

/-- Read an argument behind its two hyphens. -/
def readLong (shape : Shape) (t : Text) : Reading :=
  let name := Text.upTo '=' t
  let attached := Text.after? '=' t
  if (shape.options.map ValuedOption.name).contains name then .option name attached
  else if shape.flags.contains name then
    if attached.isSome then .wrong (.valueOfFlag name) else .flag name
  else .wrong (.unknownOption ("--".toList ++ t))

/-- Read an argument behind its hyphen: a letter and the value attached to it,
    with or without an equals sign. -/
def readShort (shape : Shape) (letter : Char) (rest : Text) : Reading :=
  match shape.options.find? (·.letter == letter) with
  | none => .wrong (.unknownOption ('-' :: letter :: rest))
  | some option =>
    match rest with
    | [] => .option option.name none
    | '=' :: value => .option option.name (some value)
    | value => .option option.name (some value)

/-- Read one argument.  A hyphen by itself is no option. -/
def readOne (shape : Shape) (argument : Text) : Reading :=
  match argument with
  | ['-', '-'] => .endOfOptions
  | '-' :: '-' :: long => shape.readLong long
  | '-' :: letter :: rest => shape.readShort letter rest
  | _ => .plain

/-- Whether an argument can be the value of the option before it. -/
def isValue (argument : Text) : Bool := argument.head? != some '-' || argument == ['-']

/-- Read arguments into those read already. -/
def readInto (shape : Shape) (read : Arguments) : List Text → Except UsageFault Arguments
  | [] => .ok read
  | argument :: rest =>
    match shape.readOne argument with
    | .endOfOptions => rest.foldlM (Arguments.addFile shape) read
    | .plain => do shape.readInto (← Arguments.addFile shape read argument) rest
    | .flag name => do shape.readInto (← read.addFlag name) rest
    | .option name (some value) => do shape.readInto (← read.addValue name value) rest
    | .option name none =>
      match rest with
      | [] => .error (.missingValue name)
      | value :: rest =>
        if isValue value then do shape.readInto (← read.addValue name value) rest
        else .error (.missingValue name)
    | .wrong fault => .error fault

/-- Read the arguments of a command. -/
def read (shape : Shape) (arguments : List Text) : Except UsageFault Arguments :=
  shape.readInto .empty arguments

end Shape

end TableLedger.CommandLine
