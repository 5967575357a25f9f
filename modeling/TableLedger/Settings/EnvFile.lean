/-
  TableLedger.Settings.EnvFile — files that set variables.

  Each line of the file sets one variable: a name, an equals sign and a
  value, behind an optional `export`.  Blank lines and lines that begin
  with a number sign set none.  In a value, single quotes keep everything
  as it is, double quotes keep blanks, a backslash escapes, and a dollar
  sign puts in the value of a variable.

  The file never changes a variable that is set already.  Reading stops at
  the first line that is not of this form; what the lines before it set
  stays set.  A value with a NUL in it is of this form, but no variable can
  hold it: the file as a whole is unusable then.
-/

import TableLedger.Settings.Basic
import TableLedger.Unicode.Letters

namespace TableLedger.EnvFile

/-! ## §1. Values -/

/-- Where a reader of a value stands. -/
inductive Place where
  /-- Outside single quotes, escapes and names. -/
  | plain
  | singleQuoted
  /-- Behind a backslash. -/
  | escape
  /-- In the name behind a dollar sign; what was read of it. -/
  | name (read : Text)
  /-- In a name in braces; what was read of it. -/
  | bracedName (read : Text)
  /-- Behind the value, where only blanks and a comment may follow. -/
  | ended
  deriving DecidableEq, Repr

/-- What an escaped character stands for. -/
def escaped? (c : Char) : Option Char :=
  if "\\'\"$ ".toList.contains c then some c
  else if c = 'n' then some '\n'
  else none

/-- What a reader of plain text does with a character: the characters it
    yields, whether it is in double quotes then, and where it stands. -/
def plainStep (quoted : Bool) (c : Char) : Text × Bool × Place :=
  if c = '$' then ([], quoted, .name [])
  else if c = '\\' then ([], quoted, .escape)
  else if c = '"' then ([], !quoted, .plain)
  else if quoted then ([c], true, .plain)
  else if c = '\'' then ([], false, .singleQuoted)
  else if c = ' ' ∨ c = '\t' then ([], false, .ended)
  else ([c], false, .plain)

/-- The value of a variable; one that is not set is empty. -/
def valueOf (env : Environment) (name : Text) : Text := (env name).getD []

/-- Read a value; `quoted` says whether the reader is in double quotes.  The
    character that ends a name without braces is kept as it is. -/
def value? (env : Environment) (quoted : Bool) : Place → Text → Option Text
  | .singleQuoted, [] | .bracedName _, [] => none
  | .name read, [] => if quoted then none else some (valueOf env read)
  | .plain, [] | .escape, [] | .ended, [] => if quoted then none else some []
  | .plain, c :: rest =>
    let step := plainStep quoted c
    (value? env step.2.1 step.2.2 rest).map (step.1 ++ ·)
  | .singleQuoted, c :: rest =>
    if c = '\'' then value? env quoted .plain rest
    else (value? env quoted .singleQuoted rest).map (c :: ·)
  | .escape, c :: rest =>
    match escaped? c with
    | some meant => (value? env quoted .plain rest).map (meant :: ·)
    | none => none
  | .name read, c :: rest =>
    if Unicode.isAlphanumeric c then value? env quoted (.name (read ++ [c])) rest
    else if c = '\x7b' ∧ read.isEmpty then value? env quoted (.bracedName []) rest
    else if c = '$' then (value? env quoted (.name []) rest).map (valueOf env read ++ ·)
    else (value? env quoted .plain rest).map (valueOf env read ++ c :: ·)
  | .bracedName read, c :: rest =>
    if c = '\x7d' then (value? env quoted .plain rest).map (valueOf env read ++ ·)
    else value? env quoted (.bracedName (read ++ [c])) rest
  | .ended, c :: rest =>
    if c = '#' then some []
    else if c = ' ' ∨ c = '\t' then value? env quoted .ended rest
    else none

/-! ## §2. Lines -/

/-- Characters of the name of a variable. -/
def isNameChar (c : Char) : Bool := c.isAlphanum || c == '_' || c == '.'

/-- A name, with what follows it and the blanks behind it. -/
def name? (t : Text) : Option (Text × Text) :=
  match t with
  | [] => none
  | first :: _ =>
    if first.isAlpha || first == '_' then
      let name := t.takeWhile isNameChar
      some (name, Text.trimStart (t.drop name.length))
    else none

/-- What follows an equals sign. -/
def afterEquals? : Text → Option Text
  | '=' :: rest => some rest
  | _ => none

/-- A name, with what follows its equals sign.  The word `export` in front does
    not count, unless it is the name itself. -/
def assigned? (t : Text) : Option (Text × Text) := do
  let (name, rest) ← name? t
  match afterEquals? rest with
  | some value => return (name, value)
  | none =>
    if name ≠ "export".toList then none
    let (name, rest) ← name? rest
    return (name, ← afterEquals? rest)

/-- Whether nothing stands in a text but, perhaps, a comment. -/
def isVoid (t : Text) : Bool := t.isEmpty || t.head? == some '#'

/-- What a line sets. -/
inductive Line where
  | nothing
  | sets (name value : Text)
  deriving DecidableEq, Repr

/-- Read one line; `none` if it is not of the form. -/
def line? (env : Environment) (line : Text) : Option Line := do
  let t := line.trim
  if isVoid t then return .nothing
  let (name, rest) ← assigned? t
  let rest := rest.trimStart
  if isVoid rest then return .sets name []
  return .sets name (← value? env false .plain rest)

/-- What a line makes of the environment; `none` if it asks for a variable to
    hold a NUL. -/
def Line.apply (env : Environment) : Line → Option Environment
  | nothing => some env
  | sets name value =>
    if (env name).isNone && value.contains '\x00' then none
    else some (env.setIfUnset name value)

/-! ## §3. Files -/

/-- The lines of bytes. -/
def lines : List UInt8 → List (List UInt8)
  | [] => [[]]
  | b :: rest =>
    let later := lines rest
    if b = 10 then [] :: later else (b :: later.headD []) :: later.tail

/-- What lines make of the environment, up to the first that cannot be read;
    `none` if one of them asks for a variable to hold a NUL. -/
def readLines (env : Environment) : List (List UInt8) → Option Environment
  | [] => some env
  | bytes :: rest =>
    match (Text.ofUtf8? bytes).bind (line? env) with
    | some line => (line.apply env).bind fun changed => readLines changed rest
    | none => some env

/-- What a file makes of the environment; `none` if it is unusable. -/
def extend (env : Environment) (file : List UInt8) : Option Environment :=
  readLines env (lines file)

end TableLedger.EnvFile
