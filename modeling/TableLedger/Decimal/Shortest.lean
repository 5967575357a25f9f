/-
  TableLedger.Decimal.Shortest — the fewest digits that read back.

  A finite binary number is the rounding of every real number in an
  interval around it.  Its shortest decimal is the one with the fewest
  digits in that interval, and of those the nearest.  For a growing number
  of digits the two neighbours of the value on the decimal grid are tested
  in exact arithmetic; seventeen digits are always enough.
-/

import TableLedger.Text.Basic

namespace TableLedger.Decimal

/-! ## §1. Binary numbers -/

/-- A non-negative binary number `mantissa * 2 ^ exponent`, with the distance
    to the number below halved where `narrowBelow` says so. -/
structure Binary where
  mantissa : Nat
  exponent : Int
  narrowBelow : Bool
  deriving DecidableEq, Repr

/-- The magnitude of a finite double, from its bits. -/
def Binary.ofBits (bits : UInt64) : Binary :=
  let biased := ((bits >>> 52) &&& 0x7FF).toNat
  let fraction := (bits &&& 0xFFFFFFFFFFFFF).toNat
  if biased = 0 then ⟨fraction, -1074, false⟩
  else ⟨Nat.pow 2 52 + fraction, (biased : Int) - 1075, fraction == 0 && biased > 1⟩

/-- A decimal number `digits * 10 ^ exponent`. -/
structure Digits where
  digits : Nat
  exponent : Int
  deriving DecidableEq, Repr

/-- Compare `a * 10 ^ i` with `b * 2 ^ j`. -/
def compareScaled (a : Nat) (i : Int) (b : Nat) (j : Int) : Ordering :=
  compare (a * Nat.pow 10 i.toNat * Nat.pow 2 (-j).toNat)
    (b * Nat.pow 2 j.toNat * Nat.pow 10 (-i).toNat)

/-- Whether a decimal rounds to the binary number; the ends of the interval do
    so exactly when the mantissa is even. -/
def Binary.readsBack (x : Binary) (d : Digits) : Bool :=
  let below := compareScaled d.digits d.exponent
    (4 * x.mantissa - if x.narrowBelow then 1 else 2) (x.exponent - 2)
  let above := compareScaled d.digits d.exponent (4 * x.mantissa + 2) (x.exponent - 2)
  let closed := x.mantissa % 2 == 0
  (below == .gt || (closed && below == .eq)) && (above == .lt || (closed && above == .eq))

/-! ## §2. The search -/

/-- The least `k` from `k` on, `fuel` steps at most, with the number below `10 ^ k`. -/
def Binary.scaleFrom (x : Binary) : Nat → Int → Int
  | 0, k => k
  | fuel + 1, k =>
    if compareScaled 1 k x.mantissa x.exponent == .gt then k else x.scaleFrom fuel (k + 1)

/-- The least `k` with the number below `10 ^ k`. -/
def Binary.scale (x : Binary) : Int :=
  let bits : Int := x.exponent + (Nat.log2 x.mantissa : Int)
  x.scaleFrom 4 (bits * 30103 / 100000)

/-- The greatest multiple of `10 ^ e` that the number is not below, as a count. -/
def Binary.onGrid (x : Binary) (e : Int) : Nat :=
  (x.mantissa * Nat.pow 2 x.exponent.toNat * Nat.pow 10 (-e).toNat)
    / (Nat.pow 2 (-x.exponent).toNat * Nat.pow 10 e.toNat)

/-- The neighbour of the number on the grid `10 ^ e` that reads back; of two the
    nearer, and of two equally near the even one. -/
def Binary.neighbour? (x : Binary) (e : Int) : Option Digits :=
  let low := x.onGrid e
  let lowReads := x.readsBack ⟨low, e⟩
  let highReads := x.readsBack ⟨low + 1, e⟩
  let half := compareScaled (2 * low + 1) e (2 * x.mantissa) x.exponent
  if lowReads && highReads then
    match half with
    | .gt => some ⟨low, e⟩
    | .lt => some ⟨low + 1, e⟩
    | .eq => some ⟨if low % 2 = 0 then low else low + 1, e⟩
  else if lowReads then some ⟨low, e⟩
  else if highReads then some ⟨low + 1, e⟩
  else none

/-- Move trailing zeros, `fuel` at most, into the exponent. -/
def Digits.strip : Nat → Digits → Digits
  | 0, d => d
  | fuel + 1, d =>
    if d.digits ≠ 0 ∧ d.digits % 10 = 0 then Digits.strip fuel ⟨d.digits / 10, d.exponent + 1⟩
    else d

/-- The shortest decimal of a number other than zero. -/
def Binary.shortest (x : Binary) : Digits :=
  let scale := x.scale
  let grids := (List.range 17).map fun n => scale - (n + 1 : Nat)
  ((grids.findSome? x.neighbour?).getD ⟨x.onGrid (scale - 17), scale - 17⟩).strip 20

/-! ## §3. Layout -/

/-- Where a number is written with a plain point: the point may stand as far as
    `zerosBelow` places in front of the digits and `digitsAbove` behind the first. -/
structure Layout where
  zerosBelow : Nat
  digitsAbove : Nat
  deriving DecidableEq, Repr

/-- Write digits by a layout: with a plain point and at least one digit behind
    it, or with a signed exponent and no trailing point. -/
def Layout.render (l : Layout) (d : Digits) : Text :=
  let digits := Text.ofNat d.digits
  let point := (digits.length : Int) + d.exponent
  if 0 ≤ d.exponent ∧ point ≤ l.digitsAbove then
    digits ++ List.replicate d.exponent.toNat '0' ++ ".0".toList
  else if 0 < point ∧ point ≤ l.digitsAbove then
    digits.take point.toNat ++ '.' :: digits.drop point.toNat
  else if -(l.zerosBelow : Int) < point ∧ point ≤ 0 then
    "0.".toList ++ List.replicate (-point).toNat '0' ++ digits
  else
    let fraction := if digits.length = 1 then [] else '.' :: digits.drop 1
    let sign : Text := if 0 < point then ['+'] else []
    digits.take 1 ++ fraction ++ 'e' :: sign ++ Text.ofInt (point - 1)

/-- Write a finite double by a layout; zero keeps its sign. -/
def Layout.renderFloat (l : Layout) (x : Float) : Text :=
  let bits := x.toBits
  let sign : Text := if bits >>> 63 == 1 then ['-'] else []
  let magnitude := Binary.ofBits bits
  sign ++ if magnitude.mantissa = 0 then "0.0".toList else l.render magnitude.shortest

end TableLedger.Decimal
