/-
  TableLedger.Script.Classify — finding the table events of a script.

  The script is searched in two masked forms.  In `code` comments, string
  literals and routine definitions are blank; `withLiterals` keeps the
  literals, because a rename procedure takes its names from them.  Byte
  offsets mean the same in both.  Each statement form is searched for by
  itself, and the events are put in order by where their statements begin.
  A statement that cannot be told for sure is passed over; a reference
  that cannot be read fails the whole script.
-/

import TableLedger.Script.Routine
import TableLedger.Script.Vocabulary
import TableLedger.TableEvent
import TableLedger.TableRef.Parse

namespace TableLedger.Script

/-! ## §1. Masked scripts -/

/-- A script with what is not live code blanked, in two strengths. -/
structure MaskedScript where
  /-- Comments, dollar-quoted bodies, routines and literals blanked. -/
  code : Text
  /-- The same with the literals kept. -/
  withLiterals : Text

/-- The masked forms of a script.  Routines are found in the code and blanked in both. -/
def MaskedScript.ofScript (d : Dialect) (script : Text) : MaskedScript :=
  let masked := maskCommentsAndLiterals d script
  let spans := routineSpans d masked
  ⟨blankSpans spans masked, blankSpans spans (maskComments d script)⟩

/-- The character that begins at a byte offset of a text, if one does. -/
def charAt? : Nat → Text → Option Char
  | _, [] => none
  | 0, c :: _ => some c
  | offset + 1, c :: rest =>
    if offset + 1 < c.utf8Size then none else charAt? (offset + 1 - c.utf8Size) rest

/-! ## §2. Session tables -/

/-- Whether a reference is to a table of the server session, whose name begins
    with a number sign.  Such tables vanish by themselves and are never tracked. -/
def isSessionTable (d : Dialect) (raw : Text) : Except ReferenceError Bool :=
  if d.isServerFamily then
    (TableRef.split d raw.trim).map fun parts =>
      parts.getLast?.any fun part =>
        (part.dropWhile fun c => c == '[' || c == '"').head? == some '#'
  else .ok false

/-! ## §3. Statement forms

Each form yields its events with the byte offsets they are found at. -/

/-- An event as it was found. -/
structure Sighting where
  /-- Byte offset of the word that announces the event. -/
  trigger : Nat
  /-- Byte offset by which the event is placed among the others. -/
  offset : Nat
  event : TableEvent
  deriving DecidableEq, Repr

/-- How the names in a script are read: the dialect and the schema of bare names. -/
structure Naming where
  dialect : Dialect
  defaultSchema : Text

namespace Naming

/-- The table that a captured reference names, unless it is a session table. -/
def trackedTable? (n : Naming) (raw : Text) : Except ReferenceError (Option TableRef) := do
  if ← isSessionTable n.dialect raw then return none
  return some (← TableRef.parse n.dialect n.defaultSchema raw)

/-- The creation that a captured reference makes, placed where its statement begins. -/
def creation (n : Naming) (m : Match) : Except ReferenceError (List Sighting) :=
  match m.captured? .temporary, m.captured? .table with
  | none, some table => do
    match ← n.trackedTable? table.text with
    | some t => return [⟨m.start, m.start, .created t⟩]
    | none => return []
  | _, _ => return []

/-- Creations by CREATE TABLE. -/
def creations (n : Naming) (code : Text) : Except ReferenceError (List Sighting) := do
  let found := (createTable n.dialect.quoteStyle).matchesIn (Cursor.start code)
  return (← found.mapM n.creation).flatten

/-- Whether the last statement word in front of byte `offset` is SELECT. -/
def belongsToSelect (words : List Match) (offset : Nat) : Bool :=
  match (words.takeWhile fun w => w.start < offset).getLast? with
  | some w => w.text.asciiLowercase == "select".toList
  | none => false

/-- Whether a FROM follows before the statement ends. -/
def selectsFrom (m : Match) : Bool :=
  match m.captured? .table with
  | some table => fromWord.occursIn (Cursor.start (table.last.rest.upTo ';'))
  | none => false

/-- Creations by SELECT INTO. -/
def selections (n : Naming) (code : Text) : Except ReferenceError (List Sighting) := do
  let words := statementWord.matchesIn (Cursor.start code)
  let found := (selectInto n.dialect.quoteStyle).matchesIn (Cursor.start code)
  let owned := found.filter fun m => belongsToSelect words m.start && selectsFrom m
  return (← owned.mapM n.creation).flatten

/-- The drop of one table of a list; the list begins at byte `offset`. -/
def drop (n : Naming) (trigger offset : Nat) (m : Match) :
    Except ReferenceError (List Sighting) := do
  match ← n.trackedTable? m.text with
  | some t => return [⟨trigger, offset + m.start, .dropped t⟩]
  | none => return []

/-- The drops of one statement, each placed where its table is named. -/
def dropsOf (n : Naming) (m : Match) : Except ReferenceError (List Sighting) :=
  match m.captured? .tables with
  | some tables => do
    let found := (reference n.dialect.quoteStyle).matchesIn (Cursor.start tables.text)
    return (← found.mapM (n.drop m.start tables.start)).flatten
  | none => return []

/-- Drops by DROP TABLE. -/
def drops (n : Naming) (code : Text) : Except ReferenceError (List Sighting) := do
  let found := (dropTable n.dialect.quoteStyle).matchesIn (Cursor.start code)
  return (← found.mapM n.dropsOf).flatten

/-- The text between the first and the last quote of a literal. -/
def literalInside (literal : Text) : Text :=
  let opened := (literal.dropWhile (· != '\'')).drop 1
  ((opened.reverse.dropWhile (· != '\'')).drop 1).reverse

/-- The two names of a rename as they are written; `none` for a rename of
    something that is not a table. -/
def renamedNames? (form : RenameForm) (m : Match) : Option (Text × Text) :=
  match m.captured? .oldName, m.captured? .newName with
  | some old, some new =>
    match form with
    | .procedure =>
      let objectType := (m.captured? .objectType).map fun c => literalInside c.text
      if objectType.all fun t => t.trim.isEmpty then
        some (Text.undouble '\'' old.text, Text.undouble '\'' new.text)
      else none
    | .alterTable | .renameObject => some (old.text, new.text)
  | _, _ => none

/-- The rename that a statement makes.  It stays inside one database, so both
    references are local. -/
def rename (n : Naming) (form : RenameForm) (m : Match) :
    Except ReferenceError (List Sighting) :=
  match renamedNames? form m with
  | some (old, new) => do
    match ← n.trackedTable? old with
    | some t =>
      let table := t.toLocal
      return [⟨m.start, m.start,
        .renamed table (table.withName (Identifier.canonicalize n.dialect new))⟩]
    | none => return []
  | none => return []

/-- Renames of one form.  A rename procedure must be called in live code, not
    inside a literal. -/
def renamesOf (n : Naming) (texts : MaskedScript) (form : RenameForm) :
    Except ReferenceError (List Sighting) := do
  let searched := match form with
    | .procedure => texts.withLiterals
    | .alterTable | .renameObject => texts.code
  let found := (form.pattern n.dialect.quoteStyle).matchesIn (Cursor.start searched)
  let live := found.filter fun m => charAt? m.start texts.code == charAt? m.start searched
  return (← live.mapM (n.rename form)).flatten

/-- Renames of every form of the dialect. -/
def renames (n : Naming) (texts : MaskedScript) : Except ReferenceError (List Sighting) :=
  List.flatten <$> n.dialect.renameForms.mapM (n.renamesOf texts)

end Naming

/-! ## §4. Classification -/

/-- The classification that sightings amount to: their events by offset, those
    at the same offset in the given order. -/
def ofSightings (sightings : List Sighting) : Classification :=
  ⟨(sightings.mergeSort fun a b => a.offset ≤ b.offset).map Sighting.event⟩

/-- Everything that is found in a script, form by form. -/
def sightings (d : Dialect) (defaultSchema script : Text) :
    Except ReferenceError (List Sighting) := do
  let n : Naming := ⟨d, defaultSchema⟩
  let texts := MaskedScript.ofScript d script
  let created ← n.creations texts.code
  let selected ← n.selections texts.code
  let dropped ← n.drops texts.code
  let renamed ← n.renames texts
  return created ++ selected ++ dropped ++ renamed

/-- What a script does to tables.  Bare names fall into `defaultSchema`. -/
def classify (d : Dialect) (defaultSchema script : Text) :
    Except ReferenceError Classification :=
  (sightings d defaultSchema script).map ofSightings

end TableLedger.Script
