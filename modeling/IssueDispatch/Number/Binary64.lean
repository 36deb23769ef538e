import IssueDispatch.Number.Power

/-!
# Binary64 numbers

Clock readings, durations and amounts of money are IEEE 754 binary64 numbers.  Every finite one
is a whole number of *units* of `2 ^ (-1074)`, the smallest positive subnormal, so a finite number
is stored as that integer together with the fact that it fits the format.  Order is then the order
of integers (`Binary64.key?`), and every operation is exact integer arithmetic followed by the one
rounding of this module, `roundedUnits`: to nearest, a tie going to the even neighbour.
-/

namespace IssueDispatch

/-- The quotient of two naturals rounded to nearest, a tie going to the even neighbour. -/
def divHalfEven (n d : Nat) : Nat :=
  let q := n / d
  let r := n % d
  if 2 * r < d ∨ (2 * r = d ∧ q % 2 = 0) then q else q + 1

theorem div_le_divHalfEven (n d : Nat) : n / d ≤ divHalfEven n d := by
  unfold divHalfEven; dsimp only; split <;> omega

theorem divHalfEven_le_succ (n d : Nat) : divHalfEven n d ≤ n / d + 1 := by
  unfold divHalfEven; dsimp only; split <;> omega

@[simp] theorem divHalfEven_one (n : Nat) : divHalfEven n 1 = n := by
  simp [divHalfEven, Nat.mod_one]

namespace Binary64

/-- One in units: `2 ^ 1074`. -/
def unitsPerOne : Nat := Nat.pow (twoPow 179) 6

/-- The first magnitude, in units, that is too large for the format: the number `2 ^ 1024`. -/
def limit : Nat := Nat.pow (twoPow 128) 8 * unitsPerOne

/-- An integer number of units fits when its magnitude has at most 53 significant bits and lies
below the limit. -/
def Fits (u : Int) : Prop :=
  u.natAbs < limit ∧ u.natAbs % twoPow (u.natAbs.log2 - 52) = 0

instance (u : Int) : Decidable (Fits u) := inferInstanceAs (Decidable (_ ∧ _))

theorem unitsPerOne_pos : 0 < unitsPerOne := Nat.pow_pos (twoPow_pos _)

theorem limit_pos : 0 < limit :=
  Nat.mul_pos (Nat.pow_pos (twoPow_pos _)) unitsPerOne_pos

theorem fits_zero : Fits 0 := ⟨limit_pos, by simp⟩

/-- The magnitude `n / d` units rounded to 53 significant bits.  Below `2 ^ 53` units the grid is
one unit wide, whatever the magnitude. -/
def roundedUnits (n d : Nat) : Nat :=
  let width := twoPow ((n / d).log2 - 52)
  divHalfEven n (d * width) * width

end Binary64

/-- An IEEE 754 binary64 number.  Zero has two signs; the positive one is `finite 0`. -/
inductive Binary64 where
  | nan
  | infinity (negative : Bool)
  | negZero
  | finite (units : Int) (fits : Binary64.Fits units)
deriving DecidableEq

namespace Binary64

/-- Zero. -/
def zero : Binary64 := .finite 0 fits_zero

instance : Inhabited Binary64 := ⟨zero⟩

/-- Zero with the given sign. -/
def signedZero (negative : Bool) : Binary64 := if negative then .negZero else zero

/-- The number nearest to `± n / d` units; beyond the format it is infinite. -/
def ofQuotient (negative : Bool) (n d : Nat) : Binary64 :=
  let m := roundedUnits n d
  if m = 0 then signedZero negative
  else
    let u : Int := if negative then -(m : Int) else m
    if h : Fits u then .finite u h else .infinity negative

/-- The number nearest to an integer number of units; the sum that is zero is the positive one. -/
def ofUnits (u : Int) : Binary64 := ofQuotient (decide (u < 0)) u.natAbs 1

/-- The number nearest to an integer, infinite when the integer is too large. -/
def ofInt (n : Int) : Binary64 := ofUnits (n * (unitsPerOne : Int))

instance (n : Nat) : OfNat Binary64 n := ⟨ofInt n⟩

/-- The numerator and denominator of `mantissa * 10 ^ exponent` in units. -/
def decimalQuotient (mantissa : Nat) (exponent : Int) : Nat × Nat :=
  if 0 ≤ exponent then (mantissa * tenPow exponent.toNat * unitsPerOne, 1)
  else (mantissa * unitsPerOne, tenPow (-exponent).toNat)

/-- The number nearest to `± mantissa * 10 ^ exponent`.  `digits` is the number of decimal digits
of the mantissa; with it a magnitude far outside the format is recognised before any power of ten
is computed. -/
def ofDecimal (negative : Bool) (mantissa digits : Nat) (exponent : Int) : Binary64 :=
  if mantissa = 0 then signedZero negative
  else if 320 < exponent + digits then .infinity negative
  else if exponent + digits < -340 then signedZero negative
  else
    let (n, d) := decimalQuotient mantissa exponent
    ofQuotient negative n d

/-! ### Order -/

/-- The place of a number on the line of integers: finite numbers stand at their units and the
infinities just outside the format.  NaN has no place. -/
def key? : Binary64 → Option Int
  | .nan => none
  | .infinity true => some (-(limit : Int))
  | .infinity false => some limit
  | .negZero => some 0
  | .finite u _ => some u

/-- Strictly below; false whenever NaN takes part. -/
def lt (a b : Binary64) : Bool :=
  match a.key?, b.key? with
  | some x, some y => decide (x < y)
  | _, _ => false

/-- Below or equal; false whenever NaN takes part. -/
def le (a b : Binary64) : Bool :=
  match a.key?, b.key? with
  | some x, some y => decide (x ≤ y)
  | _, _ => false

/-- Numerically equal: both zeros are, and NaN is equal to nothing. -/
def eqv (a b : Binary64) : Bool :=
  match a.key?, b.key? with
  | some x, some y => decide (x = y)
  | _, _ => false

instance : LT Binary64 := ⟨fun a b => a.lt b = true⟩
instance : LE Binary64 := ⟨fun a b => a.le b = true⟩
instance (a b : Binary64) : Decidable (a < b) := inferInstanceAs (Decidable (a.lt b = true))
instance (a b : Binary64) : Decidable (a ≤ b) := inferInstanceAs (Decidable (a.le b = true))

theorem lt_iff {a b : Binary64} :
    a < b ↔ ∃ x y, a.key? = some x ∧ b.key? = some y ∧ x < y := by
  show a.lt b = true ↔ _
  unfold lt
  cases a.key? <;> cases b.key? <;> simp

theorem le_iff {a b : Binary64} :
    a ≤ b ↔ ∃ x y, a.key? = some x ∧ b.key? = some y ∧ x ≤ y := by
  show a.le b = true ↔ _
  unfold le
  cases a.key? <;> cases b.key? <;> simp

/-- NaN stands nowhere. -/
def isNaN : Binary64 → Bool
  | .nan => true
  | _ => false

/-- Neither NaN nor infinite. -/
def isFinite : Binary64 → Bool
  | .negZero | .finite .. => true
  | _ => false

/-- Equal to zero, with either sign. -/
def isZero (a : Binary64) : Bool := a.key? == some 0

/-- The sign bit; NaN counts as positive. -/
def isNegative : Binary64 → Bool
  | .nan => false
  | .infinity negative => negative
  | .negZero => true
  | .finite u _ => decide (u < 0)

/-- The units of a finite number. -/
def units? : Binary64 → Option Int
  | .negZero => some 0
  | .finite u _ => some u
  | _ => none

/-- The later of two readings: the second one only when it is strictly greater. -/
def max (a b : Binary64) : Binary64 := if a < b then b else a

instance : Max Binary64 := ⟨max⟩

/-! ### Arithmetic -/

/-- Changes the sign. -/
def neg : Binary64 → Binary64
  | .nan => .nan
  | .infinity negative => .infinity (!negative)
  | .negZero => zero
  | .finite u h =>
    if u = 0 then .negZero
    else .finite (-u) (by unfold Fits at *; rwa [Int.natAbs_neg])

instance : Neg Binary64 := ⟨neg⟩

/-- Adds, rounding to nearest. -/
def add : Binary64 → Binary64 → Binary64
  | .nan, _ => .nan
  | _, .nan => .nan
  | .infinity a, .infinity b => if a = b then .infinity a else .nan
  | .infinity a, _ => .infinity a
  | _, .infinity b => .infinity b
  | .negZero, .negZero => .negZero
  | .negZero, y => y
  | x, .negZero => x
  | .finite u _, .finite v _ => ofUnits (u + v)

instance : Add Binary64 := ⟨add⟩
instance : Sub Binary64 := ⟨fun a b => a + -b⟩

/-- Multiplies finite numbers, rounding to nearest; there is no product with NaN or an infinity. -/
def mul? (a b : Binary64) : Option Binary64 :=
  match a.units?, b.units? with
  | some u, some v =>
    some (ofQuotient (a.isNegative != b.isNegative) (u.natAbs * v.natAbs) unitsPerOne)
  | _, _ => none

/-- Divides by a positive whole number, rounding to nearest. -/
def divNat (a : Binary64) (d : Nat) : Binary64 :=
  match a with
  | .finite u _ => if u = 0 then zero else ofQuotient (decide (u < 0)) u.natAbs d
  | x => x

/-! ### Whole numbers -/

/-- Drops the fraction. -/
def truncate? (a : Binary64) : Option Int := a.units?.map (Int.tdiv · unitsPerOne)

/-- The greatest whole number not above. -/
def floor? (a : Binary64) : Option Int := a.units?.map (Int.fdiv · unitsPerOne)

/-- `scale` times the number, rounded to a whole number, a tie going to the even neighbour. -/
def scaledHalfEven? (a : Binary64) (scale : Nat) : Option Int :=
  a.units?.map fun u =>
    let m : Int := divHalfEven (u.natAbs * scale) unitsPerOne
    if u < 0 then -m else m

/-- The number when it is whole. -/
def whole? (a : Binary64) : Option Int :=
  match a.units? with
  | some u => if u % unitsPerOne = 0 then some (u / unitsPerOne) else none
  | none => none

end Binary64

end IssueDispatch
