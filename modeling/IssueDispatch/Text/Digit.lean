/-!
# Decimal digits

A number in a text may be written with the decimal digits of any script.  Every such script has ten
consecutive code points, so the table lists the zeros (category `Nd`, version 14 of the Unicode
character database).
-/

namespace IssueDispatch.Text

/-- The code points of the digit zero in every script. -/
def zeroDigits : List Nat := [
  0x30, 0x660, 0x6F0, 0x7C0, 0x966, 0x9E6, 0xA66, 0xAE6, 0xB66, 0xBE6, 0xC66, 0xCE6, 0xD66,
  0xDE6, 0xE50, 0xED0, 0xF20, 0x1040, 0x1090, 0x17E0, 0x1810, 0x1946, 0x19D0, 0x1A80, 0x1A90,
  0x1B50, 0x1BB0, 0x1C40, 0x1C50, 0xA620, 0xA8D0, 0xA900, 0xA9D0, 0xA9F0, 0xAA50, 0xABF0, 0xFF10,
  0x104A0, 0x10D30, 0x11066, 0x110F0, 0x11136, 0x111D0, 0x112F0, 0x11450, 0x114D0, 0x11650,
  0x116C0, 0x11730, 0x118E0, 0x11950, 0x11C50, 0x11D50, 0x11DA0, 0x16A60, 0x16AC0, 0x16B50,
  0x1D7CE, 0x1D7D8, 0x1D7E2, 0x1D7EC, 0x1D7F6, 0x1E140, 0x1E2F0, 0x1E950, 0x1FBF0
]

/-- The value of a decimal digit of any script. -/
def digit? (c : Char) : Option Nat :=
  if c.toNat < 0x80 then
    if 48 ≤ c.toNat ∧ c.toNat ≤ 57 then some (c.toNat - 48) else none
  else
    (zeroDigits.find? fun z => z ≤ c.toNat && c.toNat ≤ z + 9).map (c.toNat - ·)

/-- Whether a character is a decimal digit of the ASCII range. -/
def isAsciiDigit (c : Char) : Bool := 48 ≤ c.toNat && c.toNat ≤ 57

/-- The digits of a natural number to base ten. -/
def decimalDigits (n : Nat) : String := String.ofList (Nat.toDigits 10 n)

/-- An integer to base ten, with a minus sign when it is negative. -/
def decimalInt (n : Int) : String :=
  if n < 0 then "-" ++ decimalDigits n.natAbs else decimalDigits n.natAbs

/-- A natural number to base ten, padded with zeros on the left to a least width. -/
def paddedDigits (width n : Nat) : String :=
  let digits := Nat.toDigits 10 n
  String.ofList (List.replicate (width - digits.length) '0' ++ digits)

end IssueDispatch.Text
