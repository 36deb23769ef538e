import IssueDispatch.Time.Iso
import IssueDispatch.Value

/-!
# YAML time stamps

A time stamp is a date, alone or with a time of day, and the time with or without an offset from
universal time.  `Stamp.ofText?` takes a text apart, and `Stamp.toValue` gives the date or the
moment if the calendar has it.
-/

namespace IssueDispatch.Yaml

/-- The time of day of a time stamp.  The offset counts seconds. -/
structure StampTime where
  hour : Nat
  minute : Nat
  second : Nat
  microseconds : Nat
  offset? : Option Int

/-- A time stamp as it is written. -/
structure Stamp where
  date : Date
  time? : Option StampTime

namespace Stamp

/-- Drops a given character from the front. -/
def dropChar? (c : Char) : List Char → Option (List Char)
  | d :: cs => if d = c then some cs else none
  | [] => none

/-- Reads one or two ASCII digits. -/
def takeShort? (cs : List Char) : Option (Nat × List Char) :=
  Iso.takeNumber? 2 cs <|> Iso.takeNumber? 1 cs

/-- Drops the blanks at the front. -/
def dropBlanks (cs : List Char) : List Char := cs.dropWhile fun c => c = ' ' || c = '\t'

/-- Drops what separates a date from a time of day: a letter, or blanks. -/
def dropSeparator? (cs : List Char) : Option (List Char) :=
  match cs with
  | 'T' :: cs | 't' :: cs => some cs
  | ' ' :: cs | '\t' :: cs => some (dropBlanks cs)
  | _ => none

/-- Reads a fraction of a second, of which the first six digits count. -/
def takeMicroseconds (cs : List Char) : Nat × List Char :=
  match cs with
  | '.' :: cs =>
    let (digits, rest) := cs.span Text.isAsciiDigit
    let counted := digits.take 6 ++ List.replicate (6 - digits.length) '0'
    (counted.foldl (fun n c => 10 * n + (c.toNat - 48)) 0, rest)
  | cs => (0, cs)

/-- Reads an offset that takes up all the characters given, if there are any. -/
def readOffset? (cs : List Char) : Option (Option Int) :=
  match dropBlanks cs with
  | [] => if cs.isEmpty then some none else none
  | ['Z'] => some (some 0)
  | sign :: cs => do
    if sign != '+' && sign != '-' then failure
    let (hours, cs) ← takeShort? cs
    let (minutes, cs) ← match cs with
      | [] => pure (0, [])
      | cs => dropChar? ':' cs >>= Iso.takeNumber? 2
    if !cs.isEmpty then failure
    let seconds : Int := 3600 * hours + 60 * minutes
    return some (if sign = '-' then -seconds else seconds)

/-- Reads a time of day that takes up all the characters given. -/
def readTime? (cs : List Char) : Option StampTime := do
  let (hour, cs) ← takeShort? cs
  let (minute, cs) ← dropChar? ':' cs >>= Iso.takeNumber? 2
  let (second, cs) ← dropChar? ':' cs >>= Iso.takeNumber? 2
  let (microseconds, cs) := takeMicroseconds cs
  return { hour, minute, second, microseconds, offset? := ← readOffset? cs }

/-- Takes a time stamp apart. -/
def ofText? (text : String) : Option Stamp := do
  let (year, cs) ← Iso.takeNumber? 4 text.toList
  let (month, cs) ← dropChar? '-' cs >>= takeShort?
  let (day, cs) ← dropChar? '-' cs >>= takeShort?
  let date : Date := ⟨year, month, day⟩
  match cs with
  | [] => return ⟨date, none⟩
  | cs => return ⟨date, ← dropSeparator? cs >>= readTime?⟩

/-- Whether a text without a tag is a time stamp.  A date alone needs all its digits. -/
def isForm (text : String) : Bool :=
  match ofText? text with
  | some stamp => stamp.time?.isSome || text.length = 10
  | none => false

/-- The date or the moment of a time stamp. -/
def toValue (stamp : Stamp) : Except Fault Value :=
  if !stamp.date.isValid then .error (.unreadableTime "the calendar has no such day")
  else
    match stamp.time? with
    | none => .ok (.date stamp.date)
    | some time =>
      if time.hour < 24 ∧ time.minute < 60 ∧ time.second < 60 ∧
          time.offset?.all fun offset => offset.natAbs < 24 * 3600 then
        let seconds := 3600 * time.hour + 60 * time.minute + time.second
        .ok (.moment ⟨stamp.date.dayNumber * secondsPerDay + seconds, time.microseconds⟩
          time.offset?)
      else .error (.unreadableTime "a day has no such time")

/-- Reads a time stamp. -/
def read (text : String) : Except Fault Value :=
  match ofText? text with
  | some stamp => stamp.toValue
  | none => .error (.unreadableTime (Text.quote text ++ " is no time stamp"))

end Stamp

end IssueDispatch.Yaml
