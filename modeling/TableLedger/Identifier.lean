/-
  TableLedger.Identifier — canonical names and their quoted forms.

  Two identifiers name the same thing exactly when their canonical forms
  are equal: a quoted identifier keeps its case and loses its quotes, an
  unquoted one is lower-cased.  `requote` goes the other way and writes a
  canonical name so that it can stand in a statement.
-/

import TableLedger.Dialect
import TableLedger.Text.Quoted

namespace TableLedger.Identifier

/-! ## §1. Taking quotes off -/

/-- The name inside one pair of quotes; brackets go before double quotes. -/
def unquoteOnce? : QuoteStyle → Text → Option Text
  | .doubleQuote, t => Text.unwrap? '"' '"' t
  | .bracket, t => Text.unwrap? '[' ']' t <|> Text.unwrap? '"' '"' t

/-- The name inside its quotes, if it has any.  In the bracket style one
    kind of quotes may stand inside another, so two pairs are taken off. -/
def unquote? (style : QuoteStyle) (t : Text) : Option Text :=
  match style with
  | .doubleQuote => unquoteOnce? style t
  | .bracket => (unquoteOnce? style t).map fun inner => (unquoteOnce? style inner).getD inner

/-- Canonical form of an identifier as it is written.  A blank text is its
    own canonical form. -/
def canonicalize (d : Dialect) (raw : Text) : Text :=
  let trimmed := raw.trim
  if trimmed.isEmpty then raw
  else (unquote? d.quoteStyle trimmed).getD trimmed.lowercase

/-- Whether an identifier is written in quotes. -/
def isQuoted (d : Dialect) (raw : Text) : Bool :=
  (unquoteOnce? d.quoteStyle raw.trim).isSome

/-! ## §2. Putting quotes on -/

/-- Words that PostgreSQL does not take as bare identifiers. -/
def reservedWords : List Text := [
  "all".toList, "analyse".toList, "analyze".toList, "and".toList, "any".toList,
  "array".toList, "as".toList, "asc".toList, "asymmetric".toList, "both".toList,
  "case".toList, "cast".toList, "check".toList, "collate".toList, "column".toList,
  "constraint".toList, "create".toList, "current_catalog".toList, "current_date".toList,
  "current_role".toList, "current_time".toList, "current_timestamp".toList,
  "current_user".toList, "default".toList, "deferrable".toList, "desc".toList,
  "distinct".toList, "do".toList, "else".toList, "end".toList, "except".toList,
  "false".toList, "fetch".toList, "for".toList, "foreign".toList, "from".toList,
  "grant".toList, "group".toList, "having".toList, "in".toList, "initially".toList,
  "intersect".toList, "into".toList, "lateral".toList, "leading".toList, "limit".toList,
  "localtime".toList, "localtimestamp".toList, "not".toList, "null".toList,
  "offset".toList, "on".toList, "only".toList, "or".toList, "order".toList,
  "placing".toList, "primary".toList, "references".toList, "returning".toList,
  "select".toList, "session_user".toList, "some".toList, "symmetric".toList,
  "table".toList, "then".toList, "to".toList, "trailing".toList, "true".toList,
  "union".toList, "unique".toList, "user".toList, "using".toList, "variadic".toList,
  "when".toList, "where".toList, "window".toList, "with".toList]

/-- Characters that may open a bare identifier. -/
def opensBare (c : Char) : Bool := c.isLower || c == '_'

/-- Characters that may follow in a bare identifier. -/
def continuesBare (c : Char) : Bool := c.isLower || c.isDigit || c == '_' || c == '$'

/-- Whether a canonical name may stand in PostgreSQL without quotes. -/
def isBare : Text → Bool
  | [] => false
  | c :: rest => opensBare c && rest.all continuesBare && !reservedWords.contains (c :: rest)

/-- A canonical name as it is written in a statement. -/
def requote (d : Dialect) (name : Text) : Text :=
  match d.quoteStyle with
  | .bracket => Text.wrap '[' ']' name
  | .doubleQuote => if isBare name then name else Text.wrap '"' '"' name

end TableLedger.Identifier
