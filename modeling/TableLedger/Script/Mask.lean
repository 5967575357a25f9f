/-
  TableLedger.Script.Mask — blanking parts of a script.

  A masked script has the byte length and the line breaks of the script it
  was made from: a blanked character gives way to as many spaces as it
  takes bytes, and a line break stays.  Positions found in a masked script
  are therefore positions in the script.

  Main statement: `byteLength_mask`.
-/

import TableLedger.Script.Region

namespace TableLedger.Script

/-! ## §1. Blanking -/

/-- What a blanked character is replaced with. -/
def blankChar (c : Char) : Text := if c = '\n' then ['\n'] else List.replicate c.utf8Size ' '

/-- Blank a whole text. -/
def blank (t : Text) : Text := t.flatMap blankChar

theorem byteLength_replicate_space (n : Nat) : Text.byteLength (List.replicate n ' ') = n := by
  induction n with
  | zero => rfl
  | succ n ih =>
    rw [List.replicate_succ, Text.byteLength_cons, ih]
    exact Nat.add_comm 1 n

/-- A blanked character takes as many bytes as before. -/
theorem byteLength_blankChar (c : Char) : Text.byteLength (blankChar c) = c.utf8Size := by
  unfold blankChar
  split
  · next h => subst h; rfl
  · exact byteLength_replicate_space _

theorem byteLength_blank (t : Text) : Text.byteLength (blank t) = Text.byteLength t := by
  induction t with
  | nil => rfl
  | cons c t ih =>
    simp only [blank, List.flatMap_cons, Text.byteLength_append, Text.byteLength_cons,
      byteLength_blankChar] at ih ⊢
    rw [ih]

/-! ## §2. Masks by region -/

/-- Which kinds of regions a mask blanks. -/
abbrev Hiding := RegionKind → Bool

/-- Comments and dollar-quoted bodies. -/
def hidesComments : Hiding
  | .comment | .dollarBody => true
  | .plain | .literal | .quotedName => false

/-- Comments, dollar-quoted bodies and string literals. -/
def hidesLiterals : Hiding
  | .comment | .dollarBody | .literal => true
  | .plain | .quotedName => false

/-- All but plain code. -/
def hidesNames : Hiding
  | .plain => false
  | .comment | .dollarBody | .literal | .quotedName => true

/-- The region as a mask shows it. -/
def Region.masked (hides : Hiding) (r : Region) : Text := if hides r.kind then blank r.text else r.text

/-- The script with the regions that `hides` names blanked. -/
def mask (hides : Hiding) (d : Dialect) (script : Text) : Text :=
  (regions d script).flatMap (Region.masked hides)

/-- Blank comments and dollar-quoted bodies. -/
def maskComments (d : Dialect) (script : Text) : Text := mask hidesComments d script

/-- Blank comments, dollar-quoted bodies and string literals. -/
def maskCommentsAndLiterals (d : Dialect) (script : Text) : Text := mask hidesLiterals d script

theorem byteLength_flatMap_masked (hides : Hiding) (rs : List Region) :
    Text.byteLength (rs.flatMap (Region.masked hides)) = Text.byteLength (rs.flatMap Region.text) := by
  induction rs with
  | nil => rfl
  | cons r rs ih =>
    simp only [List.flatMap_cons, Text.byteLength_append, ih]
    unfold Region.masked
    split
    · rw [byteLength_blank]
    · rfl

/-- Masking keeps the byte length. -/
theorem byteLength_mask (hides : Hiding) (d : Dialect) (script : Text) :
    Text.byteLength (mask hides d script) = Text.byteLength script := by
  rw [mask, byteLength_flatMap_masked, flatten_regions]

/-! ## §3. Masks by span -/

/-- A stretch of a text, by the byte offsets of its ends. -/
structure Span where
  start : Nat
  stop : Nat
  deriving DecidableEq, Repr

/-- Whether the byte at `offset` lies in the span. -/
def Span.covers (s : Span) (offset : Nat) : Bool := s.start ≤ offset && offset < s.stop

/-- Blank the characters that the spans cover, `offset` bytes into the text. -/
def blankSpansFrom (spans : List Span) (offset : Nat) : Text → Text
  | [] => []
  | c :: rest =>
    (if spans.any (·.covers offset) then blankChar c else [c])
      ++ blankSpansFrom spans (offset + c.utf8Size) rest

/-- Blank the characters that the spans cover. -/
def blankSpans (spans : List Span) (t : Text) : Text := blankSpansFrom spans 0 t

theorem byteLength_blankSpansFrom (spans : List Span) (offset : Nat) (t : Text) :
    Text.byteLength (blankSpansFrom spans offset t) = Text.byteLength t := by
  induction t generalizing offset with
  | nil => rfl
  | cons c t ih =>
    simp only [blankSpansFrom, Text.byteLength_append, Text.byteLength_cons, ih]
    split
    · rw [byteLength_blankChar]
    · simp

end TableLedger.Script
