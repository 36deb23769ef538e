import IssueDispatch.Number.Numeral

/-!
# Writing numbers

`Binary64.shortest` writes a number with the fewest significant digits that read back to it;
`Binary64.fixed` writes it with a given number of places after the point, a tie going to the even
neighbour.
-/

namespace IssueDispatch.Binary64

/-- Whether `10 ^ e` is at most the magnitude of `u` units. -/
def powerLe (e : Int) (u : Nat) : Bool :=
  if 0 ≤ e then tenPow e.toNat * unitsPerOne ≤ u else unitsPerOne ≤ u * tenPow (-e).toNat

/-- The exponent of the leading decimal digit of `u` units, `u` not zero.  The estimate from the
binary logarithm is off by one at most. -/
def leadingExponent (u : Nat) : Int :=
  let estimate := ((u.log2 : Int) - 1074) * 30103 / 100000
  if powerLe (estimate + 1) u then estimate + 1
  else if powerLe estimate u then estimate
  else estimate - 1

/-- Twice the distance, in a common denominator, between `u` units and `m * 10 ^ g`. -/
def gridDistance (u m : Nat) (g : Int) : Nat :=
  let (n, d) := decimalQuotient m g
  if n ≤ u * d then u * d - n else n - u * d

/-- The decimal `m * 10 ^ g` with `places` significant digits that reads back to `u` units: one of
the two neighbours of the number on that grid, the nearer one when both do. -/
def gridHit? (u : Nat) (leading : Int) (places : Nat) : Option (Nat × Int) :=
  let g := leading - (places - 1 : Int)
  let below :=
    if 0 ≤ g then u / (tenPow g.toNat * unitsPerOne) else u * tenPow (-g).toNat / unitsPerOne
  let readsBack (m : Nat) : Bool := (ofDecimal false m (places + 1) g).key? == some (u : Int)
  let above := below + 1
  match readsBack below, readsBack above with
  | true, true =>
    let low := gridDistance u below g
    let high := gridDistance u above g
    if low < high ∨ (low = high ∧ below % 2 = 0) then some (below, g) else some (above, g)
  | true, false => some (below, g)
  | false, true => some (above, g)
  | false, false => none

/-- The fewest significant digits, written as `m * 10 ^ g`, that read back to `u` units.  Seventeen
digits always do. -/
def shortestDecimal (u : Nat) : Nat × Int :=
  let leading := leadingExponent u
  ((List.range 17).findSome? fun i => gridHit? u leading (i + 1)).getD (0, 0)

/-- The digits of `m` without the zeros at their end, and the exponent of the first digit. -/
def significantDigits (m : Nat) (g : Int) : List Char × Int :=
  let digits := Nat.toDigits 10 m
  ((digits.reverse.dropWhile (· == '0')).reverse, g + digits.length - 1)

/-- Lays out significant digits: positionally when the first digit stands between `10 ^ (-4)` and
`10 ^ 15`, else with an exponent of two digits at least. -/
def layout (digits : List Char) (e : Int) : String :=
  if e < -4 ∨ 16 ≤ e then
    let mantissa :=
      match digits with
      | [] => ['0']
      | [d] => [d]
      | d :: rest => d :: '.' :: rest
    let mark := if e < 0 then "e-" else "e+"
    String.ofList mantissa ++ mark ++ Text.paddedDigits 2 e.natAbs
  else if e < 0 then
    "0." ++ String.ofList (List.replicate (e.natAbs - 1) '0' ++ digits)
  else
    let whole := e.toNat + 1
    if digits.length ≤ whole then
      String.ofList (digits ++ List.replicate (whole - digits.length) '0') ++ ".0"
    else
      String.ofList (digits.take whole) ++ "." ++ String.ofList (digits.drop whole)

/-- The shortest text that reads back to the same number. -/
def shortest : Binary64 → String
  | .nan => "nan"
  | .infinity negative => if negative then "-inf" else "inf"
  | .negZero => "-0.0"
  | .finite u _ =>
    if u = 0 then "0.0"
    else
      let (m, g) := shortestDecimal u.natAbs
      let (digits, e) := significantDigits m g
      (if u < 0 then "-" else "") ++ layout digits e

/-- The number with `places` digits after the point. -/
def fixed (places : Nat) (a : Binary64) : String :=
  match a.units? with
  | none => a.shortest
  | some u =>
    let scaled := divHalfEven (u.natAbs * tenPow places) unitsPerOne
    let sign := if a.isNegative then "-" else ""
    let whole := sign ++ Text.decimalDigits (scaled / tenPow places)
    if places = 0 then whole
    else whole ++ "." ++ Text.paddedDigits places (scaled % tenPow places)

end IssueDispatch.Binary64
