import IssueDispatch.Time.Calendar

/-!
# Reading ISO 8601 time stamps

A time stamp is a date, optionally followed by one separating character of any kind and a time of
day, optionally with an offset from Coordinated Universal Time.  Dates are `YYYY-MM-DD`,
`YYYYMMDD` or weeks such as `YYYY-Www-D`; times have one to three pairs of digits with or without
colons, and a fraction after a point or comma, of which the first six digits count.  Without an
offset the time is taken as universal.
-/

namespace IssueDispatch.Iso

/-- Reads exactly `n` ASCII digits. -/
def takeNumber? (n : Nat) (cs : List Char) : Option (Nat × List Char) :=
  let digits := cs.take n
  if digits.length = n ∧ digits.all Text.isAsciiDigit then
    some (digits.foldl (fun v c => 10 * v + (c.toNat - 48)) 0, cs.drop n)
  else none

/-- Whether the character at a position is a given one. -/
def isAt (cs : List Char) (i : Nat) (c : Char) : Bool := cs[i]? == some c

/-- The number of characters that belong to the date.  A week date without hyphens has eight
characters when an odd number of digits follows its week, as every pair of digits of the time is
complete. -/
def dateLength (cs : List Char) : Nat :=
  if cs.length = 7 then 7
  else if isAt cs 4 '-' then
    if isAt cs 5 'W' then
      if isAt cs 8 '-' then
        if ((cs[10]?).map Text.isAsciiDigit).getD false then 8 else 10
      else 8
    else 10
  else if isAt cs 4 'W' then
    let following := ((cs.drop 7).takeWhile Text.isAsciiDigit).length
    if following < 2 then 7 + following
    else if following % 2 = 1 then 7 else 8
  else 8

/-- Reads a date that takes up all the characters given. -/
def date? (cs : List Char) : Option Date := do
  let (year, rest) ← takeNumber? 4 cs
  let (hyphen, rest) := match rest with
    | '-' :: rest => (true, rest)
    | _ => (false, rest)
  match rest with
  | 'W' :: rest =>
    let (week, rest) ← takeNumber? 2 rest
    match hyphen, rest with
    | _, [] => Date.ofWeek? year week 1
    | true, '-' :: rest =>
      let (day, _) ← takeNumber? 1 rest
      Date.ofWeek? year week day
    | false, rest =>
      let (day, _) ← takeNumber? 1 rest
      Date.ofWeek? year week day
    | true, _ => none
  | rest =>
    let (month, rest) ← takeNumber? 2 rest
    let rest ← match hyphen, rest with
      | true, '-' :: rest => some rest
      | true, _ => none
      | false, rest => some rest
    let (day, rest) ← takeNumber? 2 rest
    if rest.isEmpty then some ⟨year, month, day⟩ else none

/-- A time of day or an offset, and whether nothing is left over after it. -/
structure Clock where
  hour : Nat
  minute : Nat
  second : Nat
  microsecond : Nat
  complete : Bool

/-- Reads a fraction; six digits count and further digits are passed over. -/
def fraction? (cs : List Char) : Option (Nat × Bool) :=
  let n := min 6 cs.length
  match takeNumber? n cs with
  | some (value, rest) => some (value * tenPow (6 - n), rest.all Text.isAsciiDigit)
  | none => none

/-- Reads up to three pairs of digits and a fraction; `fields` holds the pairs read so far,
reversed, and `colons?` whether they are separated, once that is known.  One character that belongs
to nothing may follow a pair. -/
def clockFields? (fuel : Nat) (cs : List Char) (fields : List Nat) (colons? : Option Bool) :
    Option Clock := do
  let finish (fields : List Nat) (micros : Nat) (complete : Bool) : Clock :=
    let fields := fields.reverse
    ⟨fields.getD 0 0, fields.getD 1 0, fields.getD 2 0, micros, complete⟩
  let fraction (fields : List Nat) (cs : List Char) : Option Clock :=
    (fraction? cs).map fun (micros, complete) => finish fields micros complete
  match fuel with
  | 0 => none
  | fuel + 1 =>
    let (field, rest) ← takeNumber? 2 cs
    let fields := field :: fields
    match rest with
    | [] => some (finish fields 0 true)
    | [_] => some (finish fields 0 false)
    | c :: more =>
      let colons := colons?.getD (c = ':')
      if colons ∧ c = ':' then
        if fields.length = 3 then fraction fields more
        else clockFields? fuel more fields (some colons)
      else if c = '.' ∨ c = ',' then fraction fields more
      else if colons then none
      else if fields.length = 3 then fraction fields rest
      else clockFields? fuel rest fields (some colons)

/-- Reads a time of day or an offset. -/
def clock? (cs : List Char) : Option Clock := clockFields? 3 cs [] none

/-- Whether a character begins an offset. -/
def isOffsetMark (c : Char) : Bool := c = '+' ∨ c = '-' ∨ c = 'Z'

/-- Microseconds of a clock. -/
def Clock.toMicroseconds (c : Clock) : Int :=
  ((c.hour * 3600 + c.minute * 60 + c.second : Nat) : Int) * 1000000 + c.microsecond

/-- The microseconds of one day. -/
def microsecondsPerDay : Int := 86400000000

/-- Reads an offset in microseconds, which has to be shorter than a day. -/
def offset? (cs : List Char) : Option Int :=
  match cs with
  | ['Z'] => some 0
  | 'Z' :: _ => none
  | mark :: rest => do
    let c ← clock? rest
    if !c.complete ∨ microsecondsPerDay ≤ c.toMicroseconds then none
    else some (if mark = '-' then -c.toMicroseconds else c.toMicroseconds)
  | [] => none

/-- Reads the time of day and the offset that follow the separator. -/
def timeAndOffset? (cs : List Char) : Option (Clock × Option Int) := do
  let (time, zone) := cs.span fun c => !isOffsetMark c
  let c ← clock? time
  if 24 ≤ c.hour ∨ 60 ≤ c.minute ∨ 60 ≤ c.second then none
  else if zone.isEmpty then (if c.complete then some (c, none) else none)
  else (offset? zone).map fun offset => (c, some offset)

/-- Midnight. -/
def midnight : Clock := ⟨0, 0, 0, 0, true⟩

/-- The seconds of a date and time.  With an offset the exact number of microseconds is divided
once; without one, whole seconds and the fraction are added. -/
def secondsOf? (d : Date) (time : Clock) (offset? : Option Int) : Option Binary64 :=
  if !d.isValid then none
  else
    let micros := d.dayNumber * microsecondsPerDay + time.toMicroseconds
    match offset? with
    | some offset =>
      let m := micros - offset
      some (if m = 0 then 0 else
        Binary64.ofQuotient (decide (m < 0)) (m.natAbs * Binary64.unitsPerOne) 1000000)
    | none =>
      let seconds := Int.fdiv micros 1000000
      if seconds < Moment.earliest + secondsPerDay then none
      else
        some (Binary64.ofInt seconds +
          Binary64.ofQuotient false (time.microsecond * Binary64.unitsPerOne) 1000000)

/-- The seconds since 1970 of a time stamp. -/
def seconds? (s : String) : Option Binary64 := do
  let cs := s.toList
  let n := dateLength cs
  let d ← date? (cs.take n)
  match cs.drop n with
  | [] => secondsOf? d midnight none
  | _ :: rest =>
    let (time, offset) ← timeAndOffset? rest
    secondsOf? d time offset

end IssueDispatch.Iso
