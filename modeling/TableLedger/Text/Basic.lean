/-
  TableLedger.Text.Basic — texts as lists of characters.

  Scripts, names and messages are lists of characters, so that every
  operation on them is a recursion on the list.  Positions in a script are
  counted in UTF-8 bytes: `byteLength` is the length of a text in that
  measure, and it is additive over `++`.
-/

import TableLedger.Unicode.Blank
import TableLedger.Unicode.Lowercase

namespace TableLedger

/-- A text: its characters in order. -/
abbrev Text := List Char

namespace Text

/-! ## §1. Measure -/

/-- Length in UTF-8 bytes. -/
def byteLength : Text → Nat
  | [] => 0
  | c :: rest => c.utf8Size + byteLength rest

@[simp] theorem byteLength_nil : byteLength [] = 0 := rfl

@[simp] theorem byteLength_cons (c : Char) (t : Text) :
    byteLength (c :: t) = c.utf8Size + byteLength t := rfl

theorem byteLength_append (s t : Text) : byteLength (s ++ t) = byteLength s + byteLength t := by
  induction s with
  | nil => simp
  | cons c s ih => simp [ih, Nat.add_assoc]

/-! ## §2. Trimming and case -/

/-- The text without its leading white space. -/
def trimStart (t : Text) : Text := t.dropWhile Unicode.isBlank

/-- The text without its trailing white space. -/
def trimEnd (t : Text) : Text := (t.reverse.dropWhile Unicode.isBlank).reverse

/-- The text without white space at either end. -/
def trim (t : Text) : Text := trimEnd (trimStart t)

/-- Lower-case form by the rules of every script. -/
def lowercase (t : Text) : Text := Unicode.lowercase t

/-- Lower-case form that changes ASCII letters only. -/
def asciiLowercase (t : Text) : Text := t.map Char.toLower

/-- Equality up to the case of ASCII letters. -/
def equalsIgnoringAsciiCase (s t : Text) : Bool := asciiLowercase s == asciiLowercase t

/-! ## §3. Parts -/

/-- Whether `needle` occurs in the text. -/
def includes (needle : Text) : Text → Bool
  | [] => needle.isEmpty
  | c :: rest => needle.isPrefixOf (c :: rest) || includes needle rest

/-- What stands before the first `mark`, or the whole text. -/
def upTo (mark : Char) (t : Text) : Text := t.takeWhile (· != mark)

/-- What stands behind the first `mark`, if there is one. -/
def after? (mark : Char) : Text → Option Text
  | [] => none
  | c :: rest => if c = mark then some rest else after? mark rest

/-- The texts joined, with `separator` between neighbours. -/
def join (separator : Text) : List Text → Text
  | [] => []
  | [t] => t
  | t :: rest => t ++ separator ++ join separator rest

/-- The texts between the occurrences of a mark. -/
def splitOn (mark : Char) : Text → List Text
  | [] => [[]]
  | c :: rest =>
    let pieces := splitOn mark rest
    if c = mark then [] :: pieces
    else (c :: pieces.headD []) :: pieces.tail

/-- The text that UTF-8 bytes encode. -/
def ofUtf8? (bytes : List UInt8) : Option Text :=
  (String.fromUTF8? ⟨bytes.toArray⟩).map String.toList

/-! ## §4. Numbers -/

/-- Decimal digits of a number. -/
def ofNat (n : Nat) : Text := Nat.toDigits 10 n

/-- Decimal digits of a number, after a minus sign when it is negative. -/
def ofInt : Int → Text
  | .ofNat n => ofNat n
  | .negSucc n => '-' :: ofNat (n + 1)

/-- The number that ASCII digits denote; at least one is required. -/
def toNat? (t : Text) : Option Nat :=
  if t.isEmpty || !t.all Char.isDigit then none
  else some (t.foldl (fun n c => 10 * n + (c.toNat - '0'.toNat)) 0)

/-- The number that a hexadecimal digit stands for. -/
def hexValue? (c : Char) : Option Nat :=
  if c.isDigit then some (c.toNat - '0'.toNat)
  else if 'a' ≤ c ∧ c ≤ 'f' then some (c.toNat - 'a'.toNat + 10)
  else if 'A' ≤ c ∧ c ≤ 'F' then some (c.toNat - 'A'.toNat + 10)
  else none

/-- The number that digits of a base denote. -/
def numberInBase? (base : Nat) (t : Text) : Option Nat :=
  t.foldlM (fun n c => (hexValue? c).bind fun digit =>
    if digit < base then some (base * n + digit) else none) 0

end Text

end TableLedger
