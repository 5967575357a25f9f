/-
  TableLedger.Unicode.Blank — white space.

  The characters that separate words of a statement and are trimmed off
  names: the Unicode white space, which includes the no-break space and
  the line separators but neither the zero-width space nor the
  information separators U+001C to U+001F.
-/

namespace TableLedger.Unicode

/-- White-space characters. -/
def isBlank (c : Char) : Bool :=
  let n := c.toNat
  n == 0x20 || (0x09 ≤ n && n ≤ 0x0D) || n == 0x85 || n == 0xA0 || n == 0x1680
    || (0x2000 ≤ n && n ≤ 0x200A) || n == 0x2028 || n == 0x2029 || n == 0x202F
    || n == 0x205F || n == 0x3000

end TableLedger.Unicode
