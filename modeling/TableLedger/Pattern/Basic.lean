/-
  TableLedger.Pattern.Basic — patterns over text, with captures.

  A pattern says what may stand at a place of a text.  Matching it there
  gives the list of all the ways it can match, the preferred way first:
  `seq` tries the ways of its first part in their order, `alt` prefers its
  first branch, and a repetition prefers to go on.  The match of a pattern
  at a place is the first way of the list, and the matches in a text are
  the matches at the leftmost places, none overlapping another.

  A word edge looks at the character in front of a place, so a place keeps
  that character; a search inside a part of a text starts from a place
  that has none.
-/

import TableLedger.Text.Basic
import TableLedger.Unicode.Letters

namespace TableLedger

/-! ## §1. Places -/

/-- A place in a text: the character in front, the byte offset and what follows. -/
structure Cursor where
  before : Option Char
  offset : Nat
  rest : Text
  deriving Repr

namespace Cursor

/-- The beginning of a text. -/
def start (t : Text) : Cursor := ⟨none, 0, t⟩

/-- Byte offset of the end of the text. -/
def finish (c : Cursor) : Nat := c.offset + Text.byteLength c.rest

/-- The place after the next character `ch`, with `rest` behind it. -/
def step (c : Cursor) (ch : Char) (rest : Text) : Cursor :=
  ⟨some ch, c.offset + ch.utf8Size, rest⟩

/-- What stands between two places of one text. -/
def textTo (c d : Cursor) : Text := c.rest.take (c.rest.length - d.rest.length)

/-- The same place, taken as the beginning of the text up to `d`. -/
def sliceTo (c d : Cursor) : Cursor := ⟨none, c.offset, c.textTo d⟩

/-- Whether exactly one of the two neighbours is a word character. -/
def atWordEdge (c : Cursor) : Bool := c.before.any Unicode.isWord != c.rest.head?.any Unicode.isWord

/-- Whether a line begins here. -/
def atLineStart (c : Cursor) : Bool := c.before.all (· == '\n')

/-- Whether a line ends here. -/
def atLineEnd (c : Cursor) : Bool := c.rest.head?.all (· == '\n')

end Cursor

/-! ## §2. Patterns -/

/-- What a pattern may capture. -/
inductive Slot where
  /-- Word that marks a temporary table. -/
  | temporary
  /-- One table. -/
  | table
  /-- List of tables. -/
  | tables
  /-- Old name of a renamed table. -/
  | oldName
  /-- New name of a renamed table. -/
  | newName
  /-- Third argument of a rename procedure. -/
  | objectType
  deriving DecidableEq, Repr

/-- What may stand at a place of a text. -/
inductive Pattern where
  /-- One character of a class. -/
  | one (accepts : Char → Bool)
  /-- Any number of characters of a class, as many as possible first. -/
  | run (accepts : Char → Bool)
  /-- A place between a word character and something else. -/
  | wordEdge
  | lineStart
  | lineEnd
  /-- Nothing at all. -/
  | nothing
  | seq (first second : Pattern)
  | alt (first second : Pattern)
  /-- Any number of repetitions, as many as possible first. -/
  | many (repeated : Pattern)
  | capture (slot : Slot) (inner : Pattern)

/-- What a slot captured. -/
structure Capture where
  slot : Slot
  first : Cursor
  last : Cursor
  deriving Repr

/-- One way to match: the place it ends at, and the captures, latest first. -/
structure Way where
  cursor : Cursor
  captures : List Capture
  deriving Repr

namespace Pattern

/-- Places after each run of accepted characters, the longest run first; the
    places already passed are in `shorter`. -/
def runEnds (accepts : Char → Bool) : Option Char → Nat → Text → List Cursor → List Cursor
  | before, offset, [], shorter => ⟨before, offset, []⟩ :: shorter
  | before, offset, c :: rest, shorter =>
    if accepts c then
      runEnds accepts (some c) (offset + c.utf8Size) rest (⟨before, offset, c :: rest⟩ :: shorter)
    else ⟨before, offset, c :: rest⟩ :: shorter

/-- Ways to repeat `once`, more repetitions first, followed by `tail`.  Every
    repetition takes at least one byte, so there are at most as many of them as
    characters in `left`, which is what follows. -/
def repetitions (once : Way → List Way) : Text → Way → List Way → List Way
  | [], w, tail => w :: tail
  | _ :: left, w, tail =>
    (once w).foldr
      (fun next others =>
        if w.cursor.offset < next.cursor.offset then repetitions once left next others else others)
      (w :: tail)

/-- All the ways the pattern matches from where `w` stands, the preferred one first. -/
def ways : Pattern → Way → List Way
  | one accepts, w =>
    match w.cursor.rest with
    | c :: rest => if accepts c then [{ w with cursor := w.cursor.step c rest }] else []
    | [] => []
  | run accepts, w =>
    (runEnds accepts w.cursor.before w.cursor.offset w.cursor.rest []).map
      fun cursor => { w with cursor := cursor }
  | wordEdge, w => if w.cursor.atWordEdge then [w] else []
  | lineStart, w => if w.cursor.atLineStart then [w] else []
  | lineEnd, w => if w.cursor.atLineEnd then [w] else []
  | nothing, w => [w]
  | seq first second, w => (ways first w).flatMap (ways second)
  | alt first second, w => ways first w ++ ways second w
  | many repeated, w => repetitions (ways repeated) w.cursor.rest w []
  | capture slot inner, w =>
    (ways inner w).map fun v =>
      { v with captures := ⟨slot, w.cursor, v.cursor⟩ :: v.captures }

end Pattern

/-! ## §3. Matches -/

/-- A match: where it begins and the way it was made. -/
structure Match where
  first : Cursor
  last : Cursor
  captures : List Capture
  deriving Repr

namespace Match

/-- Byte offset where the match begins. -/
def start (m : Match) : Nat := m.first.offset

/-- Byte offset where the match ends. -/
def stop (m : Match) : Nat := m.last.offset

/-- The matched text. -/
def text (m : Match) : Text := m.first.textTo m.last

/-- What `slot` captured, if it took part in the match. -/
def captured? (m : Match) (slot : Slot) : Option Capture := m.captures.find? (·.slot == slot)

end Match

namespace Capture

/-- Byte offset where the capture begins. -/
def start (c : Capture) : Nat := c.first.offset

/-- The captured text. -/
def text (c : Capture) : Text := c.first.textTo c.last

end Capture

namespace Pattern

/-- The match at a place. -/
def matchAt? (p : Pattern) (c : Cursor) : Option Match :=
  (p.ways ⟨c, []⟩).head?.map fun w => ⟨c, w.cursor, w.captures⟩

/-- The matches in a text that begin at byte `resume` or later, from the left,
    none overlapping another.  A match takes at least one character. -/
def matchesFrom (p : Pattern) (resume : Nat) : Option Char → Nat → Text → List Match
  | _, _, [] => []
  | before, offset, c :: rest =>
    if offset < resume then p.matchesFrom resume (some c) (offset + c.utf8Size) rest
    else
      match p.matchAt? ⟨before, offset, c :: rest⟩ with
      | some m => m :: p.matchesFrom m.stop (some c) (offset + c.utf8Size) rest
      | none => p.matchesFrom resume (some c) (offset + c.utf8Size) rest

/-- The matches from a place on. -/
def matchesIn (p : Pattern) (c : Cursor) : List Match :=
  p.matchesFrom c.offset c.before c.offset c.rest

/-- The first match in a text that begins `offset` bytes in, behind `before`. -/
def findFrom? (p : Pattern) : Option Char → Nat → Text → Option Match
  | _, _, [] => none
  | before, offset, c :: rest =>
    match p.matchAt? ⟨before, offset, c :: rest⟩ with
    | some m => some m
    | none => p.findFrom? (some c) (offset + c.utf8Size) rest

/-- The first match from a place on. -/
def find? (p : Pattern) (c : Cursor) : Option Match := p.findFrom? c.before c.offset c.rest

/-- Whether the pattern matches anywhere from a place on. -/
def occursIn (p : Pattern) (c : Cursor) : Bool := (p.find? c).isSome

/-! ## §4. Building patterns -/

instance : HAppend Pattern Pattern Pattern := ⟨seq⟩

/-- One or more characters of a class. -/
def run1 (accepts : Char → Bool) : Pattern := one accepts ++ run accepts

/-- The pattern or, failing that, nothing. -/
def optional (p : Pattern) : Pattern := alt p nothing

/-- The given character. -/
def char (c : Char) : Pattern := one (· == c)

/-- White space, at least one character. -/
def blanks : Pattern := run1 Unicode.isBlank

/-- White space, possibly none. -/
def blanks? : Pattern := run Unicode.isBlank

/-- Whether a character is a letter of a keyword, in any case.  Two characters
    beyond ASCII fold to letters of keywords: the long s and the Kelvin sign. -/
def isLetter (letter c : Char) : Bool :=
  c.toLower == letter || (letter == 's' && c.toNat == 0x17F)
    || (letter == 'k' && c.toNat == 0x212A)

/-- A keyword, given in lower case. -/
def keyword : Text → Pattern
  | [] => nothing
  | [c] => one (isLetter c)
  | c :: rest => one (isLetter c) ++ keyword rest

/-- The first of the given patterns that leads to a match. -/
def anyOf : List Pattern → Pattern
  | [] => one fun _ => false
  | [p] => p
  | p :: rest => alt p (anyOf rest)

end Pattern

end TableLedger
