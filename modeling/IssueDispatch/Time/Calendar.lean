import IssueDispatch.Fault
import IssueDispatch.Number.Binary64
import IssueDispatch.Text.Digit

/-!
# Calendar dates of clock readings

A clock reading is a number of seconds since the beginning of 1970 in Coordinated Universal Time.
`Moment.ofReading` cuts it into whole seconds and microseconds, the latter rounded to even on a tie;
`Date.ofDay` and `Date.day` turn days since 1970 into dates of the Gregorian calendar and back.
-/

namespace IssueDispatch

/-- A date of the Gregorian calendar. -/
structure Date where
  year : Int
  month : Nat
  day : Nat
deriving DecidableEq, Repr

namespace Date

/-- Whether February has 29 days. -/
def isLeap (year : Int) : Bool := year % 4 = 0 ∧ (year % 100 ≠ 0 ∨ year % 400 = 0)

/-- The number of days of a month. -/
def daysInMonth (year : Int) (month : Nat) : Nat :=
  if month = 2 then (if isLeap year then 29 else 28)
  else if month = 4 ∨ month = 6 ∨ month = 9 ∨ month = 11 then 30
  else 31

/-- The number of days between the beginning of 1970 and a date.  Years are counted from March, so
that the leap day is the last one of its year. -/
def dayNumber (d : Date) : Int :=
  let y := if d.month ≤ 2 then d.year - 1 else d.year
  let era := Int.fdiv y 400
  let yearOfEra := y - era * 400
  let monthFromMarch : Int := (d.month + 9) % 12
  let dayOfYear := (153 * monthFromMarch + 2) / 5 + d.day - 1
  let dayOfEra := yearOfEra * 365 + yearOfEra / 4 - yearOfEra / 100 + dayOfYear
  era * 146097 + dayOfEra - 719468

/-- The date that many days after the beginning of 1970. -/
def ofDayNumber (n : Int) : Date :=
  let z := n + 719468
  let era := Int.fdiv z 146097
  let dayOfEra := z - era * 146097
  let yearOfEra := (dayOfEra - dayOfEra / 1460 + dayOfEra / 36524 - dayOfEra / 146096) / 365
  let dayOfYear := dayOfEra - (365 * yearOfEra + yearOfEra / 4 - yearOfEra / 100)
  let monthFromMarch := (5 * dayOfYear + 2) / 153
  let day := dayOfYear - (153 * monthFromMarch + 2) / 5 + 1
  let month := if monthFromMarch < 10 then monthFromMarch + 3 else monthFromMarch - 9
  let year := yearOfEra + era * 400
  ⟨if month ≤ 2 then year + 1 else year, month.toNat, day.toNat⟩

/-- The day of the week, Monday being 0. -/
def weekday (d : Date) : Nat := ((d.dayNumber + 3) % 7).toNat

/-- Whether a date exists and its year lies between 1 and 9999. -/
def isValid (d : Date) : Bool :=
  1 ≤ d.year ∧ d.year ≤ 9999 ∧ 1 ≤ d.month ∧ d.month ≤ 12 ∧ 1 ≤ d.day ∧
    d.day ≤ daysInMonth d.year d.month

/-- The date of a day of a week of a year, as the weeks of ISO 8601 are counted. -/
def ofWeek? (year : Int) (week day : Nat) : Option Date :=
  let firstWeekday := weekday ⟨year, 1, 1⟩
  let weeks := if firstWeekday = 3 ∨ (firstWeekday = 2 ∧ isLeap year) then 53 else 52
  if week = 0 ∨ weeks < week ∨ day = 0 ∨ 7 < day then none
  else
    let newYear := dayNumber ⟨year, 1, 1⟩
    let monday := newYear - firstWeekday + (if 3 < firstWeekday then 7 else 0)
    some (ofDayNumber (monday + (week - 1) * 7 + (day - 1)))

/-- The numbers of a date. -/
def numbers (d : Date) : List Int := [d.year, d.month, d.day]

/-- A date as reports write it. -/
def literal (d : Date) : String :=
  "datetime.date(" ++ ", ".intercalate (d.numbers.map Text.decimalInt) ++ ")"

end Date

/-- The number of seconds of a day. -/
def secondsPerDay : Int := 86400

/-- A clock reading cut into whole seconds since 1970 and microseconds. -/
structure Moment where
  seconds : Int
  microseconds : Nat
deriving DecidableEq, Repr

namespace Moment

/-- Seconds of the beginning of the year 1. -/
def earliest : Int := -62135596800

/-- Seconds of the beginning of the year 10000. -/
def latest : Int := 253402300800

/-- Cuts a clock reading.  The fraction is scaled to microseconds, as a binary64 number, and then
rounded to a whole number, a tie going to the even one. -/
def ofReading (x : Binary64) : Except Fault Moment :=
  match x.units? with
  | none =>
    if x.isNaN then .error (.unreadableTime "NaN is no time")
    else .error (.outOfRange "an infinite time has no date")
  | some u =>
    let whole := Int.tdiv u Binary64.unitsPerOne
    let fraction := u - whole * Binary64.unitsPerOne
    let scaled := Binary64.ofUnits (fraction * 1000000)
    let micros := (scaled.scaledHalfEven? 1).getD 0
    if (twoPow 63 : Int) ≤ whole ∨ whole < -(twoPow 63 : Int) then
      .error (.outOfRange "the time is out of range")
    else if 1000000 ≤ micros then .ok ⟨whole + 1, (micros - 1000000).toNat⟩
    else if micros < 0 then .ok ⟨whole - 1, (micros + 1000000).toNat⟩
    else .ok ⟨whole, micros.toNat⟩

/-- The date of a moment. -/
def date (m : Moment) : Date := .ofDayNumber (Int.fdiv m.seconds secondsPerDay)

/-- The seconds since midnight. -/
def secondOfDay (m : Moment) : Nat := (Int.fmod m.seconds secondsPerDay).toNat

/-- Refuses a moment outside the years 1 to 9999.  `margin` is the number of seconds at the
beginning of the first year that are refused too. -/
def checkYear (margin : Int) (m : Moment) : Except Fault Moment :=
  if m.seconds < earliest + margin ∨ latest ≤ m.seconds then
    .error (.unreadableTime ("year " ++ Text.decimalInt m.date.year ++ " is out of range"))
  else .ok m

/-- The time of day as `HH:MM:SS`. -/
def clockText (m : Moment) : String :=
  let s := m.secondOfDay
  Text.paddedDigits 2 (s / 3600) ++ ":" ++ Text.paddedDigits 2 (s / 60 % 60) ++ ":" ++
    Text.paddedDigits 2 (s % 60)

/-- The date as `YYYY-MM-DD`; `width` is the least number of digits of the year. -/
def dateText (width : Nat) (m : Moment) : String :=
  let d := m.date
  let year :=
    if d.year < 0 then Text.decimalInt d.year else Text.paddedDigits width d.year.toNat
  year ++ "-" ++ Text.paddedDigits 2 d.month ++ "-" ++ Text.paddedDigits 2 d.day

/-- The moment as `YYYY-MM-DD HH:MM:SS`. -/
def displayText (m : Moment) : String := m.dateText 1 ++ " " ++ m.clockText

/-- The moment in the format of ISO 8601, with microseconds only when they are not zero. -/
def isoText (m : Moment) : String :=
  m.dateText 4 ++ "T" ++ m.clockText ++
    (if m.microseconds = 0 then "" else "." ++ Text.paddedDigits 6 m.microseconds) ++ "+00:00"

/-- The moment a number of seconds later. -/
def ahead (seconds : Int) (m : Moment) : Moment := { m with seconds := m.seconds + seconds }

/-- How reports write by how many seconds a time zone is ahead of universal time. -/
def zoneLiteral (offset : Int) : String :=
  if offset = 0 then "datetime.timezone.utc"
  else
    let days := if offset < 0 then "days=-1, " else ""
    "datetime.timezone(datetime.timedelta(" ++ days ++ "seconds=" ++
      Text.decimalInt (Int.fmod offset secondsPerDay) ++ "))"

/-- The moment, in a time zone or in none, as reports write it.  The time of day is given to the
minute at least. -/
def literal (offset? : Option Int) (m : Moment) : String :=
  let second := m.secondOfDay
  let fraction : List Int :=
    if m.microseconds ≠ 0 then [second % 60, m.microseconds]
    else if second % 60 ≠ 0 then [second % 60]
    else []
  let numbers := m.date.numbers ++ [(second / 3600 : Int), (second / 60 % 60 : Int)] ++ fraction
  let zone := offset?.map fun offset => "tzinfo=" ++ zoneLiteral offset
  "datetime.datetime(" ++ ", ".intercalate (numbers.map Text.decimalInt ++ zone.toList) ++ ")"

end Moment

/-- A clock reading as local displays show it, `-` for none and for zero. -/
def displayReading (reading? : Option Binary64) : Except Fault String :=
  match reading? with
  | none => .ok "-"
  | some x =>
    if x.isZero then .ok "-"
    else do
      let m ← Moment.ofReading x
      let m ← m.checkYear secondsPerDay
      return m.displayText

/-- A clock reading as the time stamp of an event. -/
def isoReading (x : Binary64) : Except Fault String := do
  let m ← Moment.ofReading x
  let m ← m.checkYear 0
  return m.isoText

end IssueDispatch
