/-
  TableLedger.Url.Punycode — labels of domain names in ASCII.

  A label keeps its ASCII characters; the others are taken out, and their
  code points and places are written behind a hyphen as numbers of varying
  length.  The digits of a number are chosen by thresholds that follow the
  size of the numbers before it.
-/

import TableLedger.Text.Basic

namespace TableLedger.Url.Punycode

/-! ## §1. Digits -/

/-- Digit of a number below 36: letters, then decimal digits. -/
def digit (n : Nat) : Char := "abcdefghijklmnopqrstuvwxyz0123456789".toList.getD n 'a'

/-- Threshold of the digit at place `k`, which counts in steps of 36. -/
def threshold (k bias : Nat) : Nat := max 1 (min 26 (k - bias))

/-- A threshold is at least one, so the digits come to an end. -/
theorem one_le_threshold (k bias : Nat) : 1 ≤ threshold k bias := by
  unfold threshold
  omega

/-- The digits of a number, from place `k` on. -/
def digits (bias k n : Nat) : Text :=
  let t := threshold k bias
  if n < t then [digit n]
  else digit (t + (n - t) % (36 - t)) :: digits bias (k + 36) ((n - t) / (36 - t))
termination_by n
decreasing_by
  have := one_le_threshold k bias
  have := Nat.div_le_self (n - threshold k bias) (36 - threshold k bias)
  omega

/-- Divide by 35 until at most 455 is left, counting 36 for each time. -/
def settle (n count : Nat) : Nat × Nat :=
  if 455 < n then settle (n / 35) (count + 36) else (n, count)
termination_by n
decreasing_by omega

/-- The bias behind a number, the `total`-th of them. -/
def adapt (n total : Nat) (first : Bool) : Nat :=
  let damped := if first then n / 700 else n / 2
  let settled := settle (damped + damped / total) 0
  settled.2 + 36 * settled.1 / (settled.1 + 38)

/-! ## §2. Encoding -/

/-- The encoder between two characters of the label. -/
structure State where
  output : Text
  delta : Nat
  bias : Nat
  /-- Characters dealt with. -/
  handled : Nat

/-- Pass a character of the label, the code point in turn being `turn`. -/
def State.pass (basic turn : Nat) (s : State) (c : Char) : State :=
  if c.toNat < turn then { s with delta := s.delta + 1 }
  else if c.toNat = turn then
    ⟨s.output ++ digits s.bias 36 s.delta, 0,
      adapt s.delta (s.handled + 1) (s.handled == basic), s.handled + 1⟩
  else s

/-- Write the code points of a list in turn; `next` is the first one not yet passed. -/
def State.writeAll (label : Text) (basic : Nat) : List Nat → Nat → State → State
  | [], _, s => s
  | turn :: rest, next, s =>
    let reached := { s with delta := s.delta + (turn - next) * (s.handled + 1) }
    let passed := label.foldl (State.pass basic turn) reached
    writeAll label basic rest (turn + 1) { passed with delta := passed.delta + 1 }

/-- Put a number where it belongs among increasing ones. -/
def place (n : Nat) : List Nat → List Nat
  | [] => [n]
  | m :: rest => if n < m then n :: m :: rest else if n = m then m :: rest else m :: place n rest

/-- The encoded label. -/
def encode (label : Text) : Text :=
  let basic := label.filter fun c => c.toNat < 128
  let foreign := (label.filter fun c => 128 ≤ c.toNat).map Char.toNat
  let start : State := ⟨basic ++ if basic.isEmpty then [] else ['-'], 0, 72, basic.length⟩
  (State.writeAll label basic.length (foreign.foldr place []) 128 start).output

/-! ## §3. Decoding -/

/-- The number that a digit stands for. -/
def digitValue? (c : Char) : Option Nat :=
  if 'a' ≤ c ∧ c ≤ 'z' then some (c.toNat - 'a'.toNat)
  else if c.isDigit then some (c.toNat - '0'.toNat + 26)
  else none

/-- Numbers of the code stay below this limit. -/
def wordLimit : Nat := 4294967296

/-- Read a number from place `k` on and add it to `sum`; the digit there weighs
    `weight`.  What is left of the code comes with the sum. -/
def number? (bias : Nat) : Nat → Nat → Nat → Text → Option (Nat × Text)
  | _, _, _, [] => none
  | k, weight, sum, c :: rest => do
    let d ← digitValue? c
    let sum := sum + d * weight
    let t := threshold k bias
    if sum ≥ wordLimit then none
    else if d < t then return (sum, rest)
    else if weight * (36 - t) ≥ wordLimit then none
    else number? bias (k + 36) (weight * (36 - t)) sum rest

/-- The decoder between two characters that it puts in. -/
structure Insertion where
  label : Text
  /-- Code point of the last character put in. -/
  point : Nat
  /-- Place behind it. -/
  place : Nat
  bias : Nat

/-- Put in the character that the sum of a number and the place tells. -/
def Insertion.next? (s : Insertion) (sum : Nat) : Option Insertion :=
  let total := s.label.length + 1
  let point := s.point + sum / total
  let place := sum % total
  if point.isValidChar then
    some ⟨s.label.insertIdx place (Char.ofNat point), point, place + 1,
      adapt (sum - s.place) total (s.place == 0)⟩
  else none

/-- Put in the characters that a code tells, at most `fuel` of them. -/
def Insertion.run? : Nat → Insertion → Text → Option Text
  | _, s, [] => some s.label
  | 0, _, _ :: _ => none
  | fuel + 1, s, code => do
    let (sum, rest) ← number? s.bias 36 1 s.place code
    run? fuel (← s.next? sum) rest

/-- The label that a code stands for.  Its ASCII characters stand in front of
    the last hyphen, which is left out where there are none. -/
def decode? (code : Text) : Option Text :=
  let behind := (code.reverse.takeWhile (· != '-')).reverse
  let basic := code.take (code.length - behind.length - 1)
  let numbers := if basic.isEmpty then code else behind
  if code.all fun c => c.toNat < 128 then Insertion.run? numbers.length ⟨basic, 128, 0, 72⟩ numbers
  else none

end TableLedger.Url.Punycode
