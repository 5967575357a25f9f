/-
  TableLedger.TableRef.Parse — reading dotted references.

  A reference is cut at the dots that stand outside quotes.  The cut is one
  pass with three states: outside quotes, inside double quotes, and, where
  the dialect has them, inside brackets, in which a doubled closing bracket
  stands for itself.  The trimmed pieces are then read as table, schema,
  database and server, from the last to the first.
-/

import TableLedger.TableRef.Basic

namespace TableLedger

/-! ## §1. Errors -/

/-- What is wrong with a reference. -/
inductive ReferenceFault where
  /-- A quote or bracket is opened and not closed. -/
  | unterminated
  /-- Nothing but white space. -/
  | empty
  /-- More than four parts. -/
  | tooManyParts (count : Nat)
  /-- A part that may not be left out is empty. -/
  | emptyPart
  deriving DecidableEq, Repr

/-- A reference that cannot be read, with the text as it was given. -/
structure ReferenceError where
  reference : Text
  fault : ReferenceFault
  deriving DecidableEq, Repr

def ReferenceFault.message : ReferenceFault → Text
  | unterminated => "unterminated quoted identifier".toList
  | empty => "empty reference".toList
  | tooManyParts n => Text.ofNat n ++ " dot-separated parts, at most 4 allowed".toList
  | emptyPart => "empty name part".toList

def ReferenceError.message (e : ReferenceError) : Text :=
  "Invalid table reference '".toList ++ e.reference ++ "': ".toList ++ e.fault.message

namespace TableRef

/-! ## §2. Cutting at dots -/

/-- Where a reader of a reference stands. -/
inductive Quoting where
  | outside
  | inDoubleQuotes
  | inBrackets
  deriving DecidableEq, Repr

/-- Put a character in front of the first piece. -/
def consFirst (c : Char) : List Text → List Text
  | [] => [[c]]
  | piece :: rest => (c :: piece) :: rest

/-- The pieces between the dots that stand outside quotes, untrimmed; `none`
    when the text ends inside quotes.  Brackets quote only if `brackets`. -/
def cut (brackets : Bool) : Quoting → Text → Option (List Text)
  | .outside, [] => some [[]]
  | .inDoubleQuotes, [] => none
  | .inBrackets, [] => none
  | .outside, c :: rest =>
    if c = '.' then (cut brackets .outside rest).map ([] :: ·)
    else if c = '"' then (cut brackets .inDoubleQuotes rest).map (consFirst c)
    else if c = '[' ∧ brackets then (cut brackets .inBrackets rest).map (consFirst c)
    else (cut brackets .outside rest).map (consFirst c)
  | .inDoubleQuotes, c :: rest =>
    if c = '"' then (cut brackets .outside rest).map (consFirst c)
    else (cut brackets .inDoubleQuotes rest).map (consFirst c)
  | .inBrackets, ']' :: ']' :: rest =>
    (cut brackets .inBrackets rest).map fun pieces => consFirst ']' (consFirst ']' pieces)
  | .inBrackets, c :: rest =>
    if c = ']' then (cut brackets .outside rest).map (consFirst c)
    else (cut brackets .inBrackets rest).map (consFirst c)

/-- The parts of a dotted reference, trimmed and still in their quotes. -/
def split (d : Dialect) (raw : Text) : Except ReferenceError (List Text) :=
  match cut (d.quoteStyle == .bracket) .outside raw with
  | some pieces => .ok (pieces.map Text.trim)
  | none => .error ⟨raw, .unterminated⟩

/-! ## §3. Reading the parts -/

/-- A schema part; left empty, it stands for the default schema. -/
def schemaOrDefault (d : Dialect) (defaultSchema part : Text) : Text :=
  Identifier.canonicalize d (if part.isEmpty then defaultSchema else part)

/-- The reference that one to four parts denote.  Only the schema of the SQL
    Server family may be empty, and only when a database stands before it. -/
def ofParts (d : Dialect) (defaultSchema : Text) :
    List Text → Except ReferenceFault TableRef
  | [table] =>
    if table.isEmpty then .error .emptyPart
    else .ok (inSchema (canonical defaultSchema) (canonical table))
  | [schema, table] =>
    if schema.isEmpty || table.isEmpty then .error .emptyPart
    else .ok (inSchema (canonical schema) (canonical table))
  | [database, schema, table] =>
    if database.isEmpty || omitted schema || table.isEmpty then .error .emptyPart
    else .ok ⟨none, some (canonical database), schemaOrDefault d defaultSchema schema,
      canonical table⟩
  | [server, database, schema, table] =>
    if server.isEmpty || database.isEmpty || omitted schema || table.isEmpty then
      .error .emptyPart
    else .ok ⟨some (canonical server), some (canonical database),
      schemaOrDefault d defaultSchema schema, canonical table⟩
  | parts => .error (.tooManyParts parts.length)
where
  canonical (part : Text) : Text := Identifier.canonicalize d part
  omitted (schema : Text) : Bool := schema.isEmpty && !d.isServerFamily

/-- Read a dotted reference.  A bare table name falls into `defaultSchema`. -/
def parse (d : Dialect) (defaultSchema raw : Text) : Except ReferenceError TableRef :=
  let trimmed := raw.trim
  if trimmed.isEmpty then .error ⟨raw, .empty⟩
  else
    match split d trimmed with
    | .error e => .error e
    | .ok parts => (ofParts d defaultSchema parts).mapError fun fault => ⟨raw, fault⟩

end TableRef

end TableLedger
