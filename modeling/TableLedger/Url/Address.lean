/-
  TableLedger.Url.Address — numeric addresses of hosts.

  An address of version 4 is a number of 32 bits, one of version 6 eight
  pieces of 16 bits.  Both have one canonical text, whatever they were
  written as.
-/

import TableLedger.Url.Encoding

namespace TableLedger.Url

/-! ## §1. Version 4 -/

/-- A part of an address: decimal, octal behind a zero or hexadecimal behind `0x`. -/
def addressPart? : Text → Option Nat
  | [] => none
  | ['0'] => some 0
  | '0' :: c :: rest =>
    if c = 'x' ∨ c = 'X' then Text.numberInBase? 16 rest else Text.numberInBase? 8 (c :: rest)
  | t => Text.numberInBase? 10 t

/-- The parts of a dotted name; an empty last one does not count. -/
def dottedParts (t : Text) : List Text :=
  let parts := Text.splitOn '.' t
  if 1 < parts.length ∧ parts.getLast? = some [] then parts.dropLast else parts

/-- Whether the last part of a dotted name is a number, so that it must be an address. -/
def endsInNumber (t : Text) : Bool :=
  (dottedParts t).getLast?.any fun last =>
    (!last.isEmpty && last.all Char.isDigit) || (addressPart? last).isSome

/-- The address that dotted numbers denote.  The last number fills all the
    bytes that the others leave. -/
def version4? (t : Text) : Option Nat := do
  let numbers ← (dottedParts t).mapM addressPart?
  let last ← numbers.getLast?
  let others := numbers.dropLast
  if others.length > 3 ∨ others.any (· > 255) ∨ last ≥ Nat.pow 256 (4 - others.length) then
    none
  return others.foldl (fun n byte => 256 * n + byte) 0 * Nat.pow 256 (4 - others.length) + last

/-- An address of version 4 as it is written. -/
def renderVersion4 (n : Nat) : Text :=
  Text.join ['.'] ([16777216, 65536, 256, 1].map fun unit => Text.ofNat (n / unit % 256))

/-! ## §2. Version 6 -/

/-- A piece: one to four hexadecimal digits. -/
def piece? (t : Text) : Option Nat :=
  if t.isEmpty ∨ t.length > 4 then none else Text.numberInBase? 16 t

/-- A decimal byte without leading zeros. -/
def decimalByte? (t : Text) : Option Nat := do
  let n ← Text.toNat? t
  if n > 255 ∨ (t.length > 1 ∧ t.head? = some '0') then none
  return n

/-- The pieces between colons.  Where `dotted`, the last two may be written as
    four decimal bytes. -/
def pieces? (dotted : Bool) (t : Text) : Option (List Nat) :=
  if t.isEmpty then some []
  else
    let groups := Text.splitOn ':' t
    let last := groups.getLast?.getD []
    if dotted ∧ last.contains '.' then do
      let front ← groups.dropLast.mapM piece?
      match ← (Text.splitOn '.' last).mapM decimalByte? with
      | [a, b, c, d] => return front ++ [256 * a + b, 256 * c + d]
      | _ => none
    else groups.mapM piece?

/-- What stands around the first double colon. -/
def aroundDoubleColon? : Text → Option (Text × Text)
  | ':' :: ':' :: rest => some ([], rest)
  | [] => none
  | c :: rest => (aroundDoubleColon? rest).map fun parts => (c :: parts.1, parts.2)

/-- The pieces of an address; a double colon stands for one zero or more. -/
def version6? (t : Text) : Option (List Nat) := do
  match aroundDoubleColon? t with
  | none =>
    let pieces ← pieces? true t
    if pieces.length = 8 then return pieces else none
  | some (before, behind) =>
    let front ← pieces? false before
    let back ← pieces? true behind
    if front.length + back.length > 7 then none
    return front ++ List.replicate (8 - front.length - back.length) 0 ++ back

/-- Number of zeros that pieces begin with. -/
def leadingZeros (pieces : List Nat) : Nat := (pieces.takeWhile (· == 0)).length

/-- The first of the longest runs of zeros, as its place and length. -/
def longestZeros (pieces : List Nat) : Nat × Nat :=
  (List.range pieces.length).foldl
    (fun best place =>
      let length := leadingZeros (pieces.drop place)
      if best.2 < length then (place, length) else best)
    (0, 0)

/-- An address of version 6 in brackets; its longest run of two zeros or more
    gives way to a double colon. -/
def renderVersion6 (pieces : List Nat) : Text :=
  let written (ps : List Nat) : Text := Text.join [':'] (ps.map (Nat.toDigits 16))
  let zeros := longestZeros pieces
  let inner :=
    if zeros.2 < 2 then written pieces
    else written (pieces.take zeros.1) ++ "::".toList ++ written (pieces.drop (zeros.1 + zeros.2))
  '[' :: inner ++ [']']

end TableLedger.Url
