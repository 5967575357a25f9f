/-
  TableLedger.Text.Shown — texts as messages show them.

  A shown text stands in double quotes.  Quotes, backslashes and line
  breaks are escaped, and what could not be seen is shown by its code
  point.
-/

import TableLedger.Text.Basic
import TableLedger.Unicode.Printable

namespace TableLedger.Text

/-- A character as it is shown between quotes. -/
def shownChar (c : Char) : Text :=
  if c = '\x00' then ['\\', '0']
  else if c = '\t' then ['\\', 't']
  else if c = '\n' then ['\\', 'n']
  else if c = '\r' then ['\\', 'r']
  else if c = '"' ∨ c = '\\' then ['\\', c]
  else if Unicode.isPrintable c then [c]
  else "\\u\x7b".toList ++ Nat.toDigits 16 c.toNat ++ ['\x7d']

/-- A text as it is shown. -/
def shown (t : Text) : Text := '"' :: t.flatMap shownChar ++ ['"']

end TableLedger.Text
