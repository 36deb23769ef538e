import IssueDispatch.Value

/-!
# Reading JSON

`Json.read?` reads a value from a JSON text.  Beyond the standard it takes `NaN`, `Infinity` and
`-Infinity` for numbers; a number without fraction and exponent is a whole one, and one with too
many digits is none.  Of several fields
with one name the last value counts, at the place of the first.
-/

namespace IssueDispatch.Json

/-- The characters that may stand between the parts of a JSON text. -/
def isSpace (c : Char) : Bool := c = ' ' ∨ c = '\t' ∨ c = '\n' ∨ c = '\r'

/-- Drops the space at the front. -/
def skipSpace (cs : List Char) : List Char := cs.dropWhile isSpace

/-- Drops a given word from the front. -/
def dropWord? : List Char → List Char → Option (List Char)
  | [], cs => some cs
  | w :: ws, c :: cs => if w = c then dropWord? ws cs else none
  | _ :: _, [] => none

/-- The value of a digit to base sixteen. -/
def hexValue? (c : Char) : Option Nat :=
  if '0' ≤ c ∧ c ≤ '9' then some (c.toNat - 48)
  else if 'a' ≤ c ∧ c ≤ 'f' then some (c.toNat - 87)
  else if 'A' ≤ c ∧ c ≤ 'F' then some (c.toNat - 55)
  else none

/-- The number written by digits to base sixteen. -/
def hexNumber? (cs : List Char) : Option Nat :=
  cs.foldlM (fun n c => (hexValue? c).map (16 * n + ·)) 0

/-- The character for a short escape. -/
def shortEscape? (c : Char) : Option Char :=
  match c with
  | '"' => some '"'
  | '\\' => some '\\'
  | '/' => some '/'
  | 'b' => some '\x08'
  | 'f' => some '\x0c'
  | 'n' => some '\n'
  | 'r' => some '\r'
  | 't' => some '\t'
  | _ => none

/-- Joins the two halves of a surrogate pair to the code point they stand for. -/
def joinSurrogates? (high low : Nat) : Option Nat :=
  if 0xD800 ≤ high ∧ high < 0xDC00 ∧ 0xDC00 ≤ low ∧ low < 0xE000 then
    some (0x10000 + (high - 0xD800) * 0x400 + (low - 0xDC00))
  else none

/-- Reads the rest of a text after its opening quotation mark; `out` holds what has been read,
reversed.  A surrogate that stands alone is read as the replacement character. -/
def readText? (fuel : Nat) (cs out : List Char) : Option (String × List Char) :=
  match fuel, cs with
  | 0, _ => none
  | _, [] => none
  | _, '"' :: rest => some (String.ofList out.reverse, rest)
  | fuel + 1, '\\' :: 'u' :: a :: b :: c :: d :: rest => do
    let high ← hexNumber? [a, b, c, d]
    let pair? := match rest with
      | '\\' :: 'u' :: e :: f :: g :: h :: tail =>
        match hexNumber? [e, f, g, h] with
        | some low => (joinSurrogates? high low).map fun code => (code, tail)
        | none => none
      | _ => none
    match pair? with
    | some (code, tail) => readText? fuel tail (Char.ofNat code :: out)
    | none =>
      let char := if 0xD800 ≤ high ∧ high < 0xE000 then '\uFFFD' else Char.ofNat high
      readText? fuel rest (char :: out)
  | fuel + 1, '\\' :: c :: rest => do
    let char ← shortEscape? c
    readText? fuel rest (char :: out)
  | fuel + 1, c :: rest => if c.toNat < 32 then none else readText? fuel rest (c :: out)

/-- Splits off the ASCII digits at the front. -/
def takeAsciiDigits (cs : List Char) : List Char × List Char := cs.span Text.isAsciiDigit

/-- The values of ASCII digits. -/
def digitValues (cs : List Char) : List Nat := cs.map fun c => c.toNat - 48

/-- Splits off the digits before the point.  A zero in front stands alone. -/
def takeWhole (cs : List Char) : List Char × List Char :=
  match takeAsciiDigits cs with
  | ('0' :: more, rest) => (['0'], more ++ rest)
  | parts => parts

/-- Splits off the digits of a fraction, which needs at least one digit after the point. -/
def takeFraction (cs : List Char) : List Char × List Char :=
  match cs with
  | '.' :: tail =>
    match takeAsciiDigits tail with
    | ([], _) => ([], cs)
    | parts => parts
  | _ => ([], cs)

/-- Splits off an exponent: a mark, a sign and at least one digit. -/
def takeExponent (cs : List Char) : Option Int × List Char :=
  match cs with
  | mark :: tail =>
    if mark = 'e' ∨ mark = 'E' then
      let (minus, tail) := takeSign tail
      match takeAsciiDigits tail with
      | ([], _) => (none, cs)
      | (digits, tail) =>
        let n : Int := ofDigits (digitValues digits)
        (some (if minus then -n else n), tail)
    else (none, cs)
  | [] => (none, cs)

/-- The value that the parts of a number stand for. -/
def numberOf? (negative : Bool) (whole fraction : List Char) (exponent? : Option Int) :
    Option Value :=
  if whole.isEmpty then none
  else if fraction.isEmpty ∧ exponent?.isNone then
    if maxIntegerDigits < whole.length then none
    else
      let n : Int := ofDigits (digitValues whole)
      some (.int (if negative then -n else n))
  else
    some (.float (decimalNumber negative (digitValues whole) (digitValues fraction)
      (exponent?.getD 0)))

/-- Reads an unsigned number. -/
def readNumber? (negative : Bool) (cs : List Char) : Option (Value × List Char) :=
  let (whole, rest) := takeWhole cs
  let (fraction, rest) := takeFraction rest
  let (exponent?, rest) := takeExponent rest
  (numberOf? negative whole fraction exponent?).map fun v => (v, rest)

mutual

/-- Reads a value; every step into a part uses up one unit of fuel. -/
def readValue? : (fuel : Nat) → List Char → Option (Value × List Char)
  | 0, _ => none
  | fuel + 1, cs =>
    match skipSpace cs with
    | [] => none
    | '"' :: rest => (readText? (rest.length + 1) rest []).map fun (s, tail) => (.str s, tail)
    | '[' :: rest =>
      match skipSpace rest with
      | ']' :: tail => some (.list [], tail)
      | rest => readItems? fuel rest []
    | '\x7b' :: rest =>
      match skipSpace rest with
      | '\x7d' :: tail => some (.object [], tail)
      | rest => readFields? fuel rest []
    | 'n' :: rest => (dropWord? ['u', 'l', 'l'] rest).map fun tail => (.null, tail)
    | 't' :: rest => (dropWord? ['r', 'u', 'e'] rest).map fun tail => (.bool true, tail)
    | 'f' :: rest => (dropWord? ['a', 'l', 's', 'e'] rest).map fun tail => (.bool false, tail)
    | 'N' :: rest => (dropWord? ['a', 'N'] rest).map fun tail => (.float .nan, tail)
    | 'I' :: rest =>
      (dropWord? "nfinity".toList rest).map fun tail => (.float (.infinity false), tail)
    | '-' :: 'I' :: rest =>
      (dropWord? "nfinity".toList rest).map fun tail => (.float (.infinity true), tail)
    | '-' :: rest => readNumber? true rest
    | rest => readNumber? false rest

/-- Reads the items of a list up to the closing bracket. -/
def readItems? : (fuel : Nat) → List Char → List Value → Option (Value × List Char)
  | 0, _, _ => none
  | fuel + 1, cs, items => do
    let (item, rest) ← readValue? fuel cs
    match skipSpace rest with
    | ',' :: rest => readItems? fuel rest (item :: items)
    | ']' :: rest => some (.list (item :: items).reverse, rest)
    | _ => none

/-- Reads the fields of an object up to the closing brace. -/
def readFields? : (fuel : Nat) → List Char → Fields → Option (Value × List Char)
  | 0, _, _ => none
  | fuel + 1, cs, fields => do
    match skipSpace cs with
    | '"' :: rest =>
      let (key, rest) ← readText? (rest.length + 1) rest []
      match skipSpace rest with
      | ':' :: rest =>
        let (value, rest) ← readValue? fuel rest
        let fields := Value.insert fields (.str key) value
        match skipSpace rest with
        | ',' :: rest => readFields? fuel rest fields
        | '\x7d' :: rest => some (.object fields, rest)
        | _ => none
      | _ => none
    | _ => none

end

/-- Reads a JSON text.  Each part of a value takes at least one character, which bounds the fuel. -/
def read? (s : String) : Option Value :=
  let cs := s.toList
  match readValue? (2 * cs.length + 2) cs with
  | some (v, rest) => if (skipSpace rest).isEmpty then some v else none
  | none => none

end IssueDispatch.Json
