/-
  TableLedger.Script.Region — the lexical regions of a script.

  A script is cut into regions: comments, string literals, dollar-quoted
  bodies, quoted names, and single characters of plain code.  Outside
  quotes, two dashes open a comment that runs to the end of the line, and
  a slash with a star opens one that ends at the first star with a slash,
  so block comments do not nest.  A doubled closing mark stands for
  itself.  What is opened and never closed runs to the end of the script.

  Main statement: `flatten_regions` — the regions, put together in order,
  are the script.
-/

import TableLedger.Dialect

namespace TableLedger.Script

/-! ## §1. Regions -/

/-- What a stretch of a script is. -/
inductive RegionKind where
  | plain
  | comment
  | literal
  | dollarBody
  | quotedName
  deriving DecidableEq, Repr

/-- A stretch of a script with its kind. -/
structure Region where
  kind : RegionKind
  text : Text
  deriving DecidableEq, Repr

/-! ## §2. How far a region reaches

Each function counts characters from the one after the opening mark. -/

/-- Up to the end of the line. -/
def lineLength (t : Text) : Nat := (t.takeWhile (· != '\n')).length

/-- Through the first occurrence of `mark`, or to the end. -/
def lengthThrough (mark : Text) : Text → Nat
  | [] => 0
  | c :: rest => if mark.isPrefixOf (c :: rest) then mark.length else lengthThrough mark rest + 1

/-- Through the closing mark of a quotation; a doubled mark does not close it. -/
def quotedLength (closing : Char) : Text → Nat
  | [] => 0
  | c :: rest =>
    if c = closing then
      match rest with
      | d :: rest' => if d = closing then quotedLength closing rest' + 2 else 1
      | [] => 1
    else quotedLength closing rest + 1

/-- Through the quote that closes an escape string, in which a backslash
    takes the character after it along. -/
def escapedLength : Text → Nat
  | [] => 0
  | c :: rest =>
    if c = '\\' then
      match rest with
      | _ :: rest' => escapedLength rest' + 2
      | [] => 1
    else if c = '\'' then
      match rest with
      | d :: rest' => if d = '\'' then escapedLength rest' + 2 else 1
      | [] => 1
    else escapedLength rest + 1

/-! ## §3. What opens a region

`before` is what stands in front, nearest character first. -/

/-- Characters of a bare identifier as far as dollar tags and escape strings
    are concerned. -/
def isNameChar (c : Char) : Bool := c.isAlphanum || c == '_' || 0x80 ≤ c.toNat

/-- Whether the nearest character in front belongs to an identifier. -/
def endsInName : Text → Bool
  | [] => false
  | c :: _ => isNameChar c

/-- Whether a quote here opens an escape string: a lone `E` stands in front. -/
def opensEscapes : Text → Bool
  | [] => false
  | c :: before => (c == 'E' || c == 'e') && !endsInName before

/-- The tag between the dollar signs that open a dollar-quoted body, given
    what follows the first of them.  `a$b$` is a name and `$1` a parameter. -/
def dollarTag? (before rest : Text) : Option Text :=
  let tag := rest.takeWhile isNameChar
  if endsInName before then none
  else if rest.head?.any Char.isDigit then none
  else if (rest.drop tag.length).head? = some '$' then some tag
  else none

/-- Kind of the region that opens at `c`, and how many characters of `rest` it takes. -/
def regionAt (d : Dialect) (before : Text) (c : Char) (rest : Text) : RegionKind × Nat :=
  if c = '-' ∧ rest.head? = some '-' then (.comment, lineLength rest)
  else if c = '/' ∧ rest.head? = some '*' then
    (.comment, lengthThrough ['*', '/'] (rest.drop 1) + 1)
  else if c = '\'' then
    (.literal, if d = .pg ∧ opensEscapes before then escapedLength rest else quotedLength c rest)
  else if c = '"' then (.quotedName, quotedLength c rest)
  else if c = '[' ∧ d.quoteStyle = .bracket then (.quotedName, quotedLength ']' rest)
  else if c = '$' ∧ d = .pg then
    match dollarTag? before rest with
    | some tag =>
      (.dollarBody,
        tag.length + 1 + lengthThrough ('$' :: tag ++ ['$']) (rest.drop (tag.length + 1)))
    | none => (.plain, 0)
  else (.plain, 0)

/-! ## §4. The regions of a script -/

/-- The regions of a text that stands behind `before`. -/
def regionsAfter (d : Dialect) (before : Text) : Text → List Region
  | [] => []
  | c :: rest =>
    let found := regionAt d before c rest
    let text := c :: rest.take found.2
    ⟨found.1, text⟩ :: regionsAfter d (text.reverse ++ before) (rest.drop found.2)
termination_by t => t.length
decreasing_by simp only [List.length_drop, List.length_cons]; omega

/-- The regions of a script, in order. -/
def regions (d : Dialect) (script : Text) : List Region := regionsAfter d [] script

/-- The regions of a text make it up. -/
theorem flatten_regionsAfter (d : Dialect) (before t : Text) :
    (regionsAfter d before t).flatMap Region.text = t := by
  fun_induction regionsAfter d before t with
  | case1 => rfl
  | case2 before c rest found text ih =>
    rw [List.flatMap_cons, ih, List.cons_append, List.take_append_drop]

/-- Put together in order, the regions of a script are the script. -/
theorem flatten_regions (d : Dialect) (script : Text) :
    (regions d script).flatMap Region.text = script :=
  flatten_regionsAfter d [] script

end TableLedger.Script
