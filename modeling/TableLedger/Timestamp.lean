/-
  TableLedger.Timestamp — times without a zone, to the nanosecond.

  A time is a day of the proleptic Gregorian calendar, counted from
  1970-01-01, and a nanosecond of that day.  The calendar runs from the
  year -262143 to the year 262142; adding days fails beyond it.
-/

import TableLedger.Text.Basic

namespace TableLedger

/-! ## §1. Days of the calendar -/

namespace Calendar

/-- A date of the Gregorian calendar. -/
structure Date where
  year : Int
  month : Nat
  day : Nat
  deriving DecidableEq, Repr

/-- The day number of a date, 1970-01-01 being day zero.  Years are counted
    from March, so that the leap day comes last. -/
def dayNumber (d : Date) : Int :=
  let year := if d.month ≤ 2 then d.year - 1 else d.year
  let era := year.fdiv 400
  let yearOfEra := year.fmod 400
  let monthFromMarch : Int := (d.month + 9) % 12
  let dayOfYear := (153 * monthFromMarch + 2) / 5 + d.day - 1
  era * 146097 + (yearOfEra * 365 + yearOfEra / 4 - yearOfEra / 100 + dayOfYear) - 719468

/-- The date of a day number. -/
def dateOf (n : Int) : Date :=
  let shifted := n + 719468
  let era := shifted.fdiv 146097
  let dayOfEra := shifted.fmod 146097
  let yearOfEra :=
    (dayOfEra - dayOfEra / 1460 + dayOfEra / 36524 - dayOfEra / 146096) / 365
  let dayOfYear := dayOfEra - (365 * yearOfEra + yearOfEra / 4 - yearOfEra / 100)
  let monthFromMarch := (5 * dayOfYear + 2) / 153
  let day := dayOfYear - (153 * monthFromMarch + 2) / 5 + 1
  let month := if monthFromMarch < 10 then monthFromMarch + 3 else monthFromMarch - 9
  let year := yearOfEra + era * 400
  ⟨if month ≤ 2 then year + 1 else year, month.toNat, day.toNat⟩

/-- First day of the calendar, -262143-01-01. -/
def firstDay : Int := dayNumber ⟨-262143, 1, 1⟩

/-- Last day of the calendar, 262142-12-31. -/
def lastDay : Int := dayNumber ⟨262142, 12, 31⟩

/-- Whether a day number belongs to the calendar. -/
def includes (n : Int) : Bool := firstDay ≤ n && n ≤ lastDay

end Calendar

/-! ## §2. Times -/

/-- A time: the day and the nanosecond of the day. -/
structure Timestamp where
  day : Int
  nanosecond : Nat
  deriving DecidableEq, Repr

namespace Timestamp

/-- Nanoseconds of a day. -/
def nanosPerDay : Nat := 86400 * 1000000000

/-- Whether `a` is earlier than `b`. -/
def before (a b : Timestamp) : Bool :=
  a.day < b.day || (a.day == b.day && a.nanosecond < b.nanosecond)

/-- The same time of day, `days` later; `none` beyond the calendar. -/
def addDays? (t : Timestamp) (days : Int) : Option Timestamp :=
  if Calendar.includes (t.day + days) then some { t with day := t.day + days } else none

/-- Whole seconds from `a` to `b`, toward zero. -/
def secondsBetween (a b : Timestamp) : Int :=
  Int.tdiv ((b.day - a.day) * nanosPerDay + (b.nanosecond - a.nanosecond)) 1000000000

/-! ## §3. Text -/

/-- Digits of a number, at least `width` of them. -/
def padded (width n : Nat) : Text :=
  let digits := Text.ofNat n
  List.replicate (width - digits.length) '0' ++ digits

/-- A year: four digits, with a sign beyond them. -/
def yearText (year : Int) : Text :=
  if 0 ≤ year ∧ year ≤ 9999 then padded 4 year.toNat
  else (if year < 0 then '-' else '+') :: padded 4 year.natAbs

/-- A fraction of a second: nothing, or a point and three, six or nine digits,
    as few as are exact. -/
def fractionText (nanos : Nat) : Text :=
  if nanos = 0 then []
  else if nanos % 1000000 = 0 then '.' :: padded 3 (nanos / 1000000)
  else if nanos % 1000 = 0 then '.' :: padded 6 (nanos / 1000)
  else '.' :: padded 9 nanos

/-- The time as `YYYY-MM-DDTHH:MM:SS`, with its fraction. -/
def render (t : Timestamp) : Text :=
  let date := Calendar.dateOf t.day
  let second := t.nanosecond / 1000000000
  yearText date.year ++ '-' :: padded 2 date.month ++ '-' :: padded 2 date.day
    ++ 'T' :: padded 2 (second / 3600) ++ ':' :: padded 2 (second / 60 % 60)
    ++ ':' :: padded 2 (second % 60) ++ fractionText (t.nanosecond % 1000000000)

/-- The number that exactly `width` leading digits denote, with what follows them. -/
def takeDigits? (width : Nat) (t : Text) : Option (Nat × Text) :=
  if t.length < width then none else (Text.toNat? (t.take width)).map fun n => (n, t.drop width)

/-- What follows the given mark. -/
def skip? (mark : Char) : Text → Option Text
  | [] => none
  | c :: rest => if c = mark then some rest else none

/-- Nanoseconds of a fraction of up to nine digits behind its point. -/
def fraction? : Text → Option Nat
  | [] => some 0
  | '.' :: digits =>
    if digits.length ≤ 9 then
      (Text.toNat? digits).map fun n => n * Nat.pow 10 (9 - digits.length)
    else none
  | _ => none

/-- Read a time as `render` writes it; the fraction may have any number of
    digits up to nine. -/
def parse? (t : Text) : Option Timestamp := do
  let (negative, unsigned) := match t with
    | '-' :: rest => (true, rest)
    | '+' :: rest => (false, rest)
    | t => (false, t)
  let yearDigits := unsigned.takeWhile Char.isDigit
  if yearDigits.length < 4 then none
  let year : Int := (← Text.toNat? yearDigits)
  let rest ← skip? '-' (unsigned.drop yearDigits.length)
  let (month, rest) ← takeDigits? 2 rest
  let rest ← skip? '-' rest
  let (day, rest) ← takeDigits? 2 rest
  let rest ← skip? 'T' rest
  let (hour, rest) ← takeDigits? 2 rest
  let rest ← skip? ':' rest
  let (minute, rest) ← takeDigits? 2 rest
  let rest ← skip? ':' rest
  let (second, rest) ← takeDigits? 2 rest
  let nanos ← fraction? rest
  let date : Calendar.Date := ⟨if negative then -year else year, month, day⟩
  let number := Calendar.dayNumber date
  if Calendar.dateOf number ≠ date ∨ hour ≥ 24 ∨ minute ≥ 60 ∨ second ≥ 60 then none
  return ⟨number, ((hour * 60 + minute) * 60 + second) * 1000000000 + nanos⟩

end Timestamp

end TableLedger
