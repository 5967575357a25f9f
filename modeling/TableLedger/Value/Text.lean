/-
  TableLedger.Value.Text — values written as text.

  Two layouts share the writing of scalars.  The compact one puts nothing
  between tokens and sorts the fields of an object by name; the indented
  one gives every item a line of its own and keeps the order of fields.
  Strings escape the quote, the backslash and the control characters below
  the space, and nothing else.
-/

import TableLedger.Value.Basic

namespace TableLedger.Value

/-! ## §1. Scalars -/

/-- Lower-case hexadecimal digit of a number below sixteen. -/
def hexDigit (n : Nat) : Char := "0123456789abcdef".toList.getD n '0'

/-- A character as it stands inside a quoted string. -/
def escapeChar (c : Char) : Text :=
  match c.toNat with
  | 0x22 => ['\\', '"']
  | 0x5C => ['\\', '\\']
  | 0x08 => ['\\', 'b']
  | 0x09 => ['\\', 't']
  | 0x0A => ['\\', 'n']
  | 0x0C => ['\\', 'f']
  | 0x0D => ['\\', 'r']
  | n => if n < 0x20 then "\\u00".toList ++ [hexDigit (n / 16), hexDigit (n % 16)] else [c]

/-- A quoted string. -/
def quoted (t : Text) : Text := '"' :: t.flatMap escapeChar ++ ['"']

/-- Numbers have a plain point from four zeros behind it up to sixteen digits in
    front of it. -/
def numberLayout : Decimal.Layout := ⟨5, 16⟩

/-! ## §2. Compact text -/

/-- Order of texts by code points. -/
def textBefore : Text → Text → Bool
  | [], _ => true
  | _ :: _, [] => false
  | c :: s, d :: t => if c.toNat = d.toNat then textBefore s t else c.toNat < d.toNat

/-- Put a field where its name belongs; a field of that name is replaced. -/
def putField (name rendered : Text) : List (Text × Text) → List (Text × Text)
  | [] => [(name, rendered)]
  | f :: rest =>
    if f.1 = name then (name, rendered) :: rest
    else if textBefore name f.1 then (name, rendered) :: f :: rest
    else f :: putField name rendered rest

mutual

/-- Text without spaces, the fields of objects sorted by name. -/
def compact : Value → Text
  | null => "null".toList
  | bool b => if b then "true".toList else "false".toList
  | int n => Text.ofInt n
  | float x => numberLayout.renderFloat x
  | text t => quoted t
  | array items => '[' :: Text.join [','] (compactItems items) ++ [']']
  | object fields =>
    let rendered := (compactFields fields []).map fun f => quoted f.1 ++ ':' :: f.2
    '\x7b' :: Text.join [','] rendered ++ ['\x7d']

/-- Texts of the items of an array. -/
def compactItems : List Value → List Text
  | [] => []
  | v :: rest => compact v :: compactItems rest

/-- Names and texts of fields, sorted into those given. -/
def compactFields : List (Text × Value) → List (Text × Text) → List (Text × Text)
  | [], sorted => sorted
  | (name, v) :: rest, sorted => compactFields rest (putField name (compact v) sorted)

end

/-- The text that a column value stands for: a string is itself, and null is none. -/
def columnText? : Value → Option Text
  | null => none
  | text t => some t
  | v => some v.compact

/-! ## §3. Indented text -/

/-- Two spaces for each level. -/
def indentation (level : Nat) : Text := List.replicate (2 * level) ' '

/-- Items between brackets, each on a line of its own; nothing between the
    brackets of an empty list. -/
def bracketed (opening closing : Char) (level : Nat) (items : List Text) : Text :=
  if items.isEmpty then [opening, closing]
  else
    opening :: '\n' :: Text.join [',', '\n'] (items.map (indentation (level + 1) ++ ·))
      ++ '\n' :: indentation level ++ [closing]

mutual

/-- Text with every item on a line of its own, `level` levels deep. -/
def indented (level : Nat) : Value → Text
  | array items => bracketed '[' ']' level (indentedItems (level + 1) items)
  | object fields => bracketed '\x7b' '\x7d' level (indentedFields (level + 1) fields)
  | null => "null".toList
  | bool b => if b then "true".toList else "false".toList
  | int n => Text.ofInt n
  | float x => numberLayout.renderFloat x
  | text t => quoted t

/-- Texts of the items of an array. -/
def indentedItems (level : Nat) : List Value → List Text
  | [] => []
  | v :: rest => indented level v :: indentedItems level rest

/-- Texts of the fields of an object, in order. -/
def indentedFields (level : Nat) : List (Text × Value) → List Text
  | [] => []
  | (name, v) :: rest =>
    (quoted name ++ ':' :: ' ' :: indented level v) :: indentedFields level rest

end

end TableLedger.Value
