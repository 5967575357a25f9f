/-
  TableLedger.Script.Routine — the extent of routine definitions.

  What a script creates inside a function, procedure or trigger is created
  when the routine is called, not when the script runs, so routine
  definitions are blanked before tables are looked for.  In PostgreSQL the
  body is a dollar-quoted string, already blanked, and the definition ends
  at its semicolon.  In the SQL Server family a body that opens with BEGIN
  ends at the END that closes it; any other body ends at the next line
  that holds nothing but GO, or with the script.
-/

import TableLedger.Pattern.Basic
import TableLedger.Script.Mask

namespace TableLedger.Script

open Pattern

/-! ## §1. Vocabulary of definitions -/

/-- The words that open the definition of a routine. -/
def routineHeader : Pattern :=
  wordEdge ++ keyword "create".toList ++ blanks
    ++ optional
      (keyword "or".toList ++ blanks ++ anyOf [keyword "replace".toList, keyword "alter".toList]
        ++ blanks)
    ++ anyOf [keyword "function".toList, keyword "procedure".toList, keyword "proc".toList,
      keyword "trigger".toList]
    ++ wordEdge

/-- A line that ends a batch. -/
def batchSeparator : Pattern :=
  lineStart ++ run isSpaceOrTab ++ keyword "go".toList ++ run isSpaceOrTab ++ lineEnd
where
  isSpaceOrTab (c : Char) : Bool := c == ' ' || c == '\t'

/-- The word between the head of a routine and its body. -/
def bodyIntroducer : Pattern := wordEdge ++ keyword "as".toList ++ wordEdge

/-- The words that open and close blocks.  BEGIN TRANSACTION is taken whole,
    because no END belongs to it. -/
def blockWord : Pattern :=
  wordEdge
    ++ anyOf [
      keyword "begin".toList
        ++ optional
          (blanks ++ optional (keyword "distributed".toList ++ blanks) ++ keyword "tran".toList
            ++ optional (keyword "saction".toList) ++ wordEdge),
      keyword "case".toList,
      keyword "end".toList]
    ++ wordEdge

/-! ## §2. Where a definition ends -/

/-- Byte offset behind the END that brings the depth down to zero, the block
    words of the body being given in order. -/
def blockEnd? : Nat → List Match → Option Nat
  | _, [] => none
  | depth, m :: rest =>
    let word := m.text.asciiLowercase
    if word = "end".toList then if depth - 1 = 0 then some m.stop else blockEnd? (depth - 1) rest
    else if word = "case".toList ∨ word = "begin".toList then blockEnd? (depth + 1) rest
    else blockEnd? depth rest

/-- Whether the first word of a text is BEGIN. -/
def opensWithBegin (t : Text) : Bool :=
  Text.equalsIgnoringAsciiCase (t.trimStart.takeWhile Unicode.isWord) "begin".toList

/-- Byte offset of the first semicolon's end from `offset` on, or of the end of the text. -/
def semicolonEnd (offset : Nat) : Text → Nat
  | [] => offset
  | c :: rest => if c = ';' then offset + 1 else semicolonEnd (offset + c.utf8Size) rest

/-- Byte offset where the body of a routine ends; `body` is what stands, from
    byte `offset` on, between the introducing word and the end of the batch. -/
def bodyEnd (d : Dialect) (offset : Nat) (body : Text) : Nat :=
  let batchEnd := offset + body.byteLength
  if opensWithBegin body then
    (blockEnd? 0 (blockWord.matchesIn ⟨none, offset, mask hidesNames d body⟩)).getD batchEnd
  else batchEnd

/-- The end of the batch that `c` lies in. -/
def batchEnd (c : Cursor) : Cursor :=
  match batchSeparator.find? c with
  | some m => m.first
  | none => ⟨none, c.finish, []⟩

/-- Byte offset where the definition ends whose header ends at `header`. -/
def routineEnd (d : Dialect) (header : Cursor) : Nat :=
  if d.isServerFamily then
    match bodyIntroducer.find? (header.sliceTo (batchEnd header)) with
    | some m => bodyEnd d m.stop m.last.rest
    | none => (batchEnd header).offset
  else semicolonEnd header.offset header.rest

/-! ## §3. The definitions of a script -/

/-- The definitions that begin at byte `resume` or later. -/
def routineSpansFrom (d : Dialect) (resume : Nat) : Option Char → Nat → Text → List Span
  | _, _, [] => []
  | before, offset, c :: rest =>
    if offset < resume then routineSpansFrom d resume (some c) (offset + c.utf8Size) rest
    else
      match routineHeader.matchAt? ⟨before, offset, c :: rest⟩ with
      | some m =>
        let stop := routineEnd d m.last
        ⟨offset, stop⟩ :: routineSpansFrom d stop (some c) (offset + c.utf8Size) rest
      | none => routineSpansFrom d resume (some c) (offset + c.utf8Size) rest

/-- The extents of the routine definitions in a text without comments. -/
def routineSpans (d : Dialect) (masked : Text) : List Span := routineSpansFrom d 0 none 0 masked

/-- Blank the routine definitions of a text without comments. -/
def maskRoutines (d : Dialect) (masked : Text) : Text := blankSpans (routineSpans d masked) masked

end TableLedger.Script
