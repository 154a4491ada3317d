import PeerName.Number.Layout
import PeerName.Value.Basic

/-!
# Points in time

A point in time is a number of seconds since the beginning of 1970, with microseconds.  It is
shown by the Gregorian calendar, which is taken to reach back before its introduction.

* `Moment` — a point in time;
* `Moment.ofValue` — the point that a number of seconds gives;
* `Moment.text`, `Moment.clockText` — date and time of day in two forms.
-/

namespace PeerName.Journal

/-- A point in time. -/
structure Moment where
  seconds : Int
  micros : Nat

/-- Why there is no date for a number. -/
inductive ClockFault where
  /-- The calendar has no such year. -/
  | year (n : Int)
  /-- The number is beyond the clock. -/
  | clock
  /-- The number is beyond the calendar of the clock. -/
  | calendar
  /-- The number is undefined. -/
  | undefined
  /-- This kind of value is no number. -/
  | notNumber (kind : String)
  deriving DecidableEq

/-- The report of a fault. -/
def ClockFault.message : ClockFault → String
  | year n => "year " ++ String.ofList (intText n) ++ " is out of range"
  | clock => "timestamp out of range for platform time_t"
  | calendar => "[Errno 75] Value too large for defined data type"
  | undefined => "Invalid value NaN (not a number)"
  | notNumber kind => "'" ++ kind ++ "' object cannot be interpreted as an integer"

/-- Puts seconds and microseconds of either sign together. -/
def Moment.of (seconds micros : Int) : Moment :=
  ⟨seconds + micros / 1000000, (micros % 1000000).toNat⟩

/-- The point that a double number of seconds gives.  The fraction is turned into microseconds by
a rounded multiplication, and the product is rounded to the nearest integer, a half to the even
one. -/
def Moment.ofReal (x : Binary64) : Except ClockFault Moment :=
  match x.decode with
  | .undefined => .error .undefined
  | .infinite => .error .clock
  | .finite m q =>
    let two := powerRatio 2 q
    let whole := m * two.1 / two.2
    let product := Binary64.ofRatio false (m * two.1 % two.2 * 1000000) two.2
    let micros := match product.decode with
      | .finite m q =>
        let two := powerRatio 2 q
        roundQuotient (m * two.1) two.2
      | _ => 0
    let sign : Int := if x.isNegative then -1 else 1
    .ok (.of (sign * whole) (sign * micros))

/-- The point that a number of seconds gives. -/
def Moment.ofValue : Value → Except ClockFault Moment
  | .int n => .ok (.of n 0)
  | .bool b => .ok (.of (if b then 1 else 0) 0)
  | .real x => Moment.ofReal x
  | v => .error (.notNumber v.kind)

/-- A date. -/
structure Date where
  year : Int
  month : Nat
  day : Nat

/-- The date of a day, counted from the beginning of 1970.  Years are counted from March, so that
the day added in leap years is the last one; 400 years have 146097 days. -/
def Date.ofDay (n : Int) : Date :=
  let shifted := n + 719468
  let era := shifted / 146097
  let day := (shifted % 146097).toNat
  let year := (day - day / 1460 + day / 36524 - day / 146096) / 365
  let rest := day - (365 * year + year / 4 - year / 100)
  let month := (5 * rest + 2) / 153
  { year := year + era * 400 + (if month < 10 then 0 else 1)
    month := if month < 10 then month + 3 else month - 9
    day := rest - (153 * month + 2) / 5 + 1 }

/-- The seconds of a day. -/
def daySeconds : Int := 86400

/-- Whether the year of a point in time can be shown; the same has to hold for the day before.  The
report of a year shows it in 32 bits. -/
def Moment.checkYear (seconds : Int) : Except ClockFault Unit :=
  let year := (Date.ofDay (seconds / daySeconds)).year
  if Nat.pow 2 63 ≤ seconds ∨ seconds < -Nat.pow 2 63 then .error .clock
  else if Nat.pow 2 31 + 1900 ≤ year ∨ year < -Nat.pow 2 31 + 1900 then .error .calendar
  else if 1 ≤ year ∧ year ≤ 9999 then .ok () else .error (.year (year.bmod (Nat.pow 2 32)))

/-- A number in two digits. -/
def twoDigits (n : Nat) : List Char := zeroFill 2 (natText n)

/-- Year, month and day. -/
def Moment.dateChars (t : Moment) : List Char :=
  let date := Date.ofDay (t.seconds / daySeconds)
  zeroFill 4 (natText date.year.toNat) ++ '-' :: twoDigits date.month
    ++ '-' :: twoDigits date.day

/-- Hour, minute and second. -/
def Moment.timeChars (t : Moment) : List Char :=
  let second := (t.seconds % daySeconds).toNat
  twoDigits (second / 3600) ++ ':' :: twoDigits (second / 60 % 60) ++ ':' :: twoDigits (second % 60)

/-- Date and time of day, with the microseconds if there are any. -/
def Moment.text (t : Moment) : Except ClockFault String := do
  checkYear t.seconds
  checkYear (t.seconds - daySeconds)
  let fraction := if t.micros = 0 then [] else '.' :: zeroFill 6 (natText t.micros)
  return String.ofList (t.dateChars ++ 'T' :: t.timeChars ++ fraction)

/-- Date and time of day, with the milliseconds behind a comma. -/
def Moment.clockText (t : Moment) : String :=
  String.ofList (t.dateChars ++ ' ' :: t.timeChars ++ ',' :: zeroFill 3 (natText (t.micros / 1000)))

end PeerName.Journal
