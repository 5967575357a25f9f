/-
  TableLedger.Main — the program.

  Everything that the program decides is decided by `CommandLine.run`; here
  its surroundings are read and its outcome is printed.
-/

import TableLedger.CommandLine.Basic

namespace TableLedger

open CommandLine

/-- The bytes of a file that can be read. -/
def readFile? (name : Text) : IO (Option (List UInt8)) := do
  match ← (IO.FS.readBinFile (String.ofList name)).toBaseIO with
  | .ok bytes => return some bytes.toList
  | .error _ => return none

/-- The first of the files that can be read. -/
def readFirst? : List Text → IO (Option (List UInt8))
  | [] => return none
  | name :: rest => do
    match ← readFile? name with
    | some bytes => return some bytes
    | none => readFirst? rest

/-- Where the file of variables is looked for: in the working directory and in
    those above it. -/
def envFileNames : List Text :=
  (List.range 64).map fun height => (List.replicate height "../".toList).flatten ++ ".env".toList

/-- The settings' variables, as far as they are set. -/
def readVariables : List Setting → IO (List (Text × Text))
  | [] => return []
  | s :: rest => do
    let found ← IO.getEnv (String.ofList s.variableName)
    let others ← readVariables rest
    return (found.toList.map fun value => (s.variableName, value.toList)) ++ others

/-- What the program finds around it, as far as its arguments ask for it. -/
def surroundings (arguments : List Text) : IO Surroundings := do
  let file := (Command.read arguments).toOption.bind Command.file?
  let content ← match file with
    | some name => readFile? name
    | none => pure none
  return {
    environment := .ofList (← readVariables Setting.all)
    envFile := ← readFirst? envFileNames
    file := fun name => if file = some name then content else none }

end TableLedger

open TableLedger in
/-- Run the program on its arguments. -/
def main (args : List String) : IO UInt32 := do
  let arguments := args.map String.toList
  let outcome := CommandLine.run arguments (← surroundings arguments)
  IO.print (String.ofList outcome.output)
  if !outcome.complaint.isEmpty then IO.eprintln (String.ofList outcome.complaint)
  return outcome.status.toUInt32
