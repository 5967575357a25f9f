/-
  TableLedger.Text.Replace — replacing a text in any case.

  Occurrences are sought in the lower-case form of a text and replaced in
  the text itself, at the same byte offsets.  Where lower-casing changes
  the byte length of a text the offsets do not carry over, and nothing is
  replaced.  Equal lengths do not promise that every offset falls between
  two characters: growing and shrinking characters may cancel out, and
  then the replacement is refused.
-/

import TableLedger.Text.Basic

namespace TableLedger.Text

/-- Cut a text after `n` bytes, if a character ends there. -/
def splitAtByte? : Nat → Text → Option (Text × Text)
  | 0, t => some ([], t)
  | _ + 1, [] => none
  | n + 1, c :: rest =>
    if c.utf8Size ≤ n + 1 then
      (splitAtByte? (n + 1 - c.utf8Size) rest).map fun cut => (c :: cut.1, cut.2)
    else none

/-- Byte offsets at `resume` or later where `needle` occurs, from the left, none
    overlapping another; the text begins at byte `offset`. -/
def occurrencesFrom (needle : Text) (resume offset : Nat) : Text → List Nat
  | [] => []
  | c :: rest =>
    if resume ≤ offset ∧ needle.isPrefixOf (c :: rest) then
      offset :: occurrencesFrom needle (offset + needle.byteLength) (offset + c.utf8Size) rest
    else occurrencesFrom needle resume (offset + c.utf8Size) rest

/-- The text with `width` bytes at each of the offsets replaced; it begins at byte
    `done`.  `none` when a character would be cut. -/
def replaceAt? (width : Nat) (replacement : Text) : Nat → Text → List Nat → Option Text
  | _, t, [] => some t
  | done, t, start :: rest => do
    let (kept, found) ← splitAtByte? (start - done) t
    let (_, behind) ← splitAtByte? width found
    let replaced ← replaceAt? width replacement (start + width) behind rest
    return kept ++ replacement ++ replaced

/-- What became of a replacement. -/
inductive Replacement where
  /-- The needle does not occur, or offsets do not carry over. -/
  | absent
  | replaced (t : Text)
  /-- An occurrence begins or ends inside a character of the text. -/
  | cutsCharacter
  deriving DecidableEq, Repr

/-- The text with every occurrence of `needle`, in any case, replaced. -/
def replaceIgnoringCase (needle replacement t : Text) : Replacement :=
  let lower := t.lowercase
  let lowerNeedle := needle.lowercase
  if lower.byteLength ≠ t.byteLength ∨ lowerNeedle.byteLength ≠ needle.byteLength then .absent
  else
    match occurrencesFrom lowerNeedle 0 0 lower with
    | [] => .absent
    | starts =>
      match replaceAt? needle.byteLength replacement 0 t starts with
      | some replaced => .replaced replaced
      | none => .cutsCharacter

end TableLedger.Text
