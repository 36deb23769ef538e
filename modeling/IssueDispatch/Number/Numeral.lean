import IssueDispatch.Number.Binary64
import IssueDispatch.Text.Blank
import IssueDispatch.Text.Digit

/-!
# Reading numbers from texts

A numeral is read after its surrounding blanks are dropped.  Its digits may come from any script,
and a single underscore may stand between two digits.  `readInt?` reads a signed whole number,
`readBinary64?` a signed decimal number with optional fraction and exponent, or one of the words for
infinity and not-a-number in any case.
-/

namespace IssueDispatch

open Text

/-- The longest numeral that is read as a whole number. -/
def maxIntegerDigits : Nat := 4300

/-- Takes the digits at the front of a text and returns what follows them.  An underscore is passed
over only between two digits; `after` says that a digit has just been read. -/
def takeDigits (after : Bool) : List Char → List Nat × List Char
  | [] => ([], [])
  | c :: rest =>
    match digit? c with
    | some d =>
      let (ds, tail) := takeDigits true rest
      (d :: ds, tail)
    | none =>
      if c = '_' ∧ after = true ∧ (rest.head?.bind digit?).isSome = true then
        takeDigits false rest
      else ([], c :: rest)

/-- The natural number written by a list of decimal digits. -/
def ofDigits (ds : List Nat) : Nat := ds.foldl (fun n d => 10 * n + d) 0

/-- Splits off a sign; `true` stands for minus. -/
def takeSign : List Char → Bool × List Char
  | '-' :: rest => (true, rest)
  | '+' :: rest => (false, rest)
  | cs => (false, cs)

/-- Reads a signed whole number. -/
def readInt? (s : String) : Option Int :=
  let (negative, cs) := takeSign (trimChars s.toList)
  match takeDigits false cs with
  | ([], _) => none
  | (ds, []) =>
    if maxIntegerDigits < ds.length then none
    else some (if negative then -(ofDigits ds : Int) else ofDigits ds)
  | _ => none

/-- The number written by a sign, the digits before and after the point, and an exponent. -/
def decimalNumber (negative : Bool) (whole fraction : List Nat) (exponent : Int) : Binary64 :=
  let ds := (whole ++ fraction).dropWhile (· == 0)
  Binary64.ofDecimal negative (ofDigits ds) ds.length (exponent - fraction.length)

/-- Reads the exponent of a decimal numeral: nothing, or a mark, a sign and digits up to the end. -/
def readExponent? : List Char → Option Int
  | [] => some 0
  | c :: rest =>
    if c = 'e' ∨ c = 'E' then
      let (negative, cs) := takeSign rest
      match takeDigits false cs with
      | ([], _) => none
      | (ds, []) => some (if negative then -(ofDigits ds : Int) else ofDigits ds)
      | _ => none
    else none

/-- Reads an unsigned decimal numeral. -/
def readMagnitude? (negative : Bool) (cs : List Char) : Option Binary64 :=
  let (whole, rest) := takeDigits false cs
  let (fraction, rest) :=
    match rest with
    | '.' :: tail => takeDigits false tail
    | _ => ([], rest)
  if whole.isEmpty ∧ fraction.isEmpty then none
  else (readExponent? rest).map (decimalNumber negative whole fraction)

/-- Reads a decimal numeral, `inf`, `infinity` or `nan`. -/
def readBinary64? (s : String) : Option Binary64 :=
  let (negative, cs) := takeSign (trimChars s.toList)
  let word := String.ofList (cs.map Char.toLower)
  if word = "inf" ∨ word = "infinity" then some (.infinity negative)
  else if word = "nan" then some .nan
  else readMagnitude? negative cs

end IssueDispatch
