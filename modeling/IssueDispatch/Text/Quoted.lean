import IssueDispatch.Text.Printable

/-!
# Quoted texts

A report shows a text in quotation marks with its unprintable characters escaped.  The marks are
single ones, unless the text holds a single one and no double one.  Bytes are shown like a text of
which only the ASCII characters are printable, with a letter in front.
-/

namespace IssueDispatch.Text

/-- A natural number to base sixteen, padded with zeros on the left. -/
def hexDigits (width n : Nat) : List Char :=
  let digits := Nat.toDigits 16 n
  List.replicate (width - digits.length) '0' ++ digits

/-- The quotation mark a text is put between. -/
def quotationMark (cs : List Char) : Char :=
  if cs.contains '\'' ∧ ¬ cs.contains '"' then '"' else '\''

/-- How a character is written between the given marks. -/
def escaped (mark c : Char) : List Char :=
  if c = mark ∨ c = '\\' then ['\\', c]
  else if c = '\n' then ['\\', 'n']
  else if c = '\t' then ['\\', 't']
  else if c = '\r' then ['\\', 'r']
  else if isPrintable c then [c]
  else if c.toNat < 0x100 then '\\' :: 'x' :: hexDigits 2 c.toNat
  else if c.toNat < 0x10000 then '\\' :: 'u' :: hexDigits 4 c.toNat
  else '\\' :: 'U' :: hexDigits 8 c.toNat

/-- A text in quotation marks. -/
def quote (s : String) : String :=
  let cs := s.toList
  let mark := quotationMark cs
  String.ofList (mark :: cs.flatMap (escaped mark) ++ [mark])

/-- How the character of a byte is written between the given marks. -/
def escapedByte (mark c : Char) : List Char :=
  if c.toNat < 0x80 then escaped mark c else '\\' :: 'x' :: hexDigits 2 c.toNat

/-- Bytes in quotation marks. -/
def quoteBytes (bytes : List UInt8) : String :=
  let cs := bytes.map fun byte => Char.ofNat byte.toNat
  let mark := quotationMark cs
  String.ofList ('b' :: mark :: cs.flatMap (escapedByte mark) ++ [mark])

end IssueDispatch.Text
