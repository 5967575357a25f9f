/-
  TableLedger.Url.Encoding — percent-encoding.

  A character that may not stand in a part of a URL is written as its UTF-8
  bytes, each as a percent sign and two hexadecimal digits.  The parts of a
  URL differ in what must be encoded there; controls and characters outside
  ASCII are encoded in every part.
-/

import TableLedger.Text.Basic

namespace TableLedger.Url

/-! ## §1. What must be encoded -/

/-- Controls and characters outside ASCII. -/
def isForeign (c : Char) : Bool := c.toNat < 0x20 || 0x7F ≤ c.toNat

/-- What a fragment must encode. -/
def encodedInFragment (c : Char) : Bool := isForeign c || " \"<>\x60".toList.contains c

/-- What a path must encode. -/
def encodedInPath (c : Char) : Bool := encodedInFragment c || "#?\x7b\x7d".toList.contains c

/-- What a user name and a password must encode. -/
def encodedInCredentials (c : Char) : Bool :=
  encodedInPath c || "/:;=@[\\]^|".toList.contains c

/-- What a query must encode. -/
def encodedInQuery (c : Char) : Bool := isForeign c || " \"#<>".toList.contains c

/-! ## §2. Encoding and decoding -/

/-- Upper-case hexadecimal digit of a number below sixteen. -/
def hexDigit (n : Nat) : Char := "0123456789ABCDEF".toList.getD n '0'

/-- An encoded byte. -/
def encodeByte (b : UInt8) : Text := ['%', hexDigit (b.toNat / 16), hexDigit (b.toNat % 16)]

/-- The text with the characters that `encoded` names encoded. -/
def encode (encoded : Char → Bool) (t : Text) : Text :=
  t.flatMap fun c => if encoded c then (String.utf8EncodeChar c).flatMap encodeByte else [c]

/-- The bytes of a text, encoded ones decoded. -/
def decode : Text → List UInt8
  | '%' :: high :: low :: rest =>
    match Text.hexValue? high, Text.hexValue? low with
    | some h, some l => .ofNat (16 * h + l) :: decode rest
    | _, _ => String.utf8EncodeChar '%' ++ decode (high :: low :: rest)
  | c :: rest => String.utf8EncodeChar c ++ decode rest
  | [] => []

end TableLedger.Url
