import IssueDispatch.Number.Binary64
import Mathlib.Tactic.Lemma

/-!
# Rounding

The sum of two finite numbers is their exact sum in units, rounded to nearest.  Rounding is a
function `nearest` on the integers that is monotone and fixes every number of the format, and these
two properties are all that is needed to compare times and windows.

A magnitude with more than 53 bits is rounded on a grid as wide as its last bits.  Magnitudes of one
length share a grid, and rounding never leaves the interval between two powers of two, so rounding
is monotone on each length and across them.
-/

namespace IssueDispatch

/-! ## Quotients and powers -/

section

variable {n n' d k : Nat}

/-- Rounded quotients grow with the dividend. -/
lemma divHalfEven_mono (h : n ≤ n') : divHalfEven n d ≤ divHalfEven n' d := by
  have hq : n / d ≤ n' / d := Nat.div_le_div_right h
  rcases Nat.lt_or_eq_of_le hq with hlt | heq
  · calc divHalfEven n d ≤ n / d + 1 := divHalfEven_le_succ n d
      _ ≤ n' / d := hlt
      _ ≤ divHalfEven n' d := div_le_divHalfEven n' d
  · have hn := Nat.div_add_mod n d
    have hn' := Nat.div_add_mod n' d
    have hr : n % d ≤ n' % d := by
      rw [heq] at hn
      omega
    unfold divHalfEven
    dsimp only
    rw [heq]
    split <;> split <;> omega

/-- A multiple of the divisor is divided without a remainder. -/
lemma divHalfEven_mul (k : Nat) (hd : 0 < d) : divHalfEven (k * d) d = k := by
  unfold divHalfEven
  dsimp only
  rw [Nat.mul_div_cancel k hd, Nat.mul_mod_left, if_pos (Or.inl (by omega))]

lemma twoPow_add (n k : Nat) : twoPow (n + k) = twoPow n * twoPow k := Nat.pow_add 2 n k

lemma twoPow_le (h : n ≤ k) : twoPow n ≤ twoPow k := Nat.pow_le_pow_right (by decide) h

lemma twoPow_log2_le (hn : n ≠ 0) : twoPow n.log2 ≤ n := Nat.log2_self_le hn

lemma le_twoPow_log2 (n : Nat) : n ≤ twoPow (n.log2 + 1) := Nat.le_of_lt Nat.lt_log2_self

lemma log2_le_log2 (h : n ≤ n') : n.log2 ≤ n'.log2 := by
  by_cases hn : n = 0
  · subst hn
    exact Nat.zero_le _
  · refine (Nat.le_log2 (by omega)).2 ?_
    exact Nat.le_trans (Nat.log2_self_le hn) h

lemma log2_eq (hlow : twoPow k ≤ n) (hhigh : n < twoPow (k + 1)) : n.log2 = k := by
  have hn : n ≠ 0 := by
    have := twoPow_pos k
    omega
  exact (Nat.log2_eq_iff hn).2 ⟨hlow, hhigh⟩

end

namespace Binary64

/-! ## Magnitudes -/

section

variable {n n' k : Nat}

/-- The width of the grid on which a magnitude is rounded. -/
def gridWidth (n : Nat) : Nat := twoPow (n.log2 - 52)

lemma gridWidth_pos (n : Nat) : 0 < gridWidth n := twoPow_pos _

lemma roundedUnits_one (n : Nat) :
    roundedUnits n 1 = divHalfEven n (gridWidth n) * gridWidth n := by
  rw [roundedUnits, Nat.div_one, Nat.one_mul]
  rfl

/-- A magnitude with at most 53 bits is on its grid. -/
lemma gridWidth_of_le (h : n.log2 ≤ 52) : gridWidth n = 1 := by
  rw [gridWidth, Nat.sub_eq_zero_of_le h]
  rfl

/-- A magnitude on its grid is not changed by rounding. -/
lemma roundedUnits_of_mod_eq_zero (h : n % gridWidth n = 0) : roundedUnits n 1 = n := by
  have hmul : n / gridWidth n * gridWidth n = n := Nat.div_mul_cancel (Nat.dvd_of_mod_eq_zero h)
  have hquotient : divHalfEven n (gridWidth n) = n / gridWidth n := by
    have hround := divHalfEven_mul (n / gridWidth n) (gridWidth_pos n)
    rwa [hmul] at hround
  rw [roundedUnits_one, hquotient, hmul]

/-- Magnitudes with at most 53 bits are not changed by rounding. -/
lemma roundedUnits_of_le (h : n.log2 ≤ 52) : roundedUnits n 1 = n := by
  refine roundedUnits_of_mod_eq_zero ?_
  rw [gridWidth_of_le h, Nat.mod_one]

/-- A long magnitude is rounded to a multiple of its grid, between the two powers of two around
it. -/
lemma roundedUnits_of_ge (h : 52 ≤ n.log2) :
    ∃ k, roundedUnits n 1 = k * gridWidth n ∧ twoPow 52 ≤ k ∧ k ≤ twoPow 53 := by
  have hn : n ≠ 0 := by
    rintro rfl
    simp at h
  refine ⟨divHalfEven n (gridWidth n), roundedUnits_one n, ?_, ?_⟩
  · have hlow : twoPow 52 * gridWidth n ≤ n := by
      rw [gridWidth, ← twoPow_add, Nat.add_sub_cancel' h]
      exact twoPow_log2_le hn
    have hmono := divHalfEven_mono (d := gridWidth n) hlow
    rwa [divHalfEven_mul _ (gridWidth_pos n)] at hmono
  · have hhigh : n ≤ twoPow 53 * gridWidth n := by
      rw [gridWidth, ← twoPow_add, show 53 + (n.log2 - 52) = n.log2 + 1 by omega]
      exact le_twoPow_log2 n
    have hmono := divHalfEven_mono (d := gridWidth n) hhigh
    rwa [divHalfEven_mul _ (gridWidth_pos n)] at hmono

/-- Rounding does not leave the interval between the two powers of two around a magnitude. -/
lemma roundedUnits_bounds (hn : n ≠ 0) :
    twoPow n.log2 ≤ roundedUnits n 1 ∧ roundedUnits n 1 ≤ twoPow (n.log2 + 1) := by
  rcases Nat.le_total n.log2 52 with hshort | hlong
  · rw [roundedUnits_of_le hshort]
    exact ⟨twoPow_log2_le hn, le_twoPow_log2 n⟩
  · obtain ⟨k, hk, hlow, hhigh⟩ := roundedUnits_of_ge hlong
    have hlow' := Nat.mul_le_mul_right (gridWidth n) hlow
    have hhigh' := Nat.mul_le_mul_right (gridWidth n) hhigh
    rw [gridWidth, ← twoPow_add, ← gridWidth] at hlow' hhigh'
    rw [Nat.add_sub_cancel' hlong] at hlow'
    rw [show 53 + (n.log2 - 52) = n.log2 + 1 by omega] at hhigh'
    rw [hk]
    exact ⟨hlow', hhigh'⟩

/-- Rounding is monotone on magnitudes. -/
lemma roundedUnits_mono (h : n ≤ n') : roundedUnits n 1 ≤ roundedUnits n' 1 := by
  by_cases hn : n = 0
  · subst hn
    rw [roundedUnits_of_mod_eq_zero (Nat.zero_mod _)]
    exact Nat.zero_le _
  have hn' : n' ≠ 0 := by omega
  rcases Nat.lt_or_eq_of_le (log2_le_log2 h) with hlt | heq
  · calc roundedUnits n 1 ≤ twoPow (n.log2 + 1) := (roundedUnits_bounds hn).2
      _ ≤ twoPow n'.log2 := twoPow_le hlt
      _ ≤ roundedUnits n' 1 := (roundedUnits_bounds hn').1
  · have hgrid : gridWidth n = gridWidth n' := by rw [gridWidth, gridWidth, heq]
    rw [roundedUnits_one, roundedUnits_one, hgrid]
    exact Nat.mul_le_mul_right _ (divHalfEven_mono h)

/-- A magnitude with at most 53 significant bits is on its own grid. -/
lemma mul_twoPow_mod (h : k ≤ twoPow 53) (j : Nat) :
    (k * twoPow j) % gridWidth (k * twoPow j) = 0 := by
  by_cases hzero : k = 0
  · rw [hzero, Nat.zero_mul, Nat.zero_mod]
  rcases Nat.lt_or_eq_of_le h with hlt | rfl
  · -- With the grid no wider than the last power of two, the magnitude is a multiple of it.
    have hlog : (k * twoPow j).log2 - 52 ≤ j := by
      have hlong : k * twoPow j < twoPow (53 + j) := by
        rw [twoPow_add]
        exact Nat.mul_lt_mul_of_pos_right hlt (twoPow_pos j)
      have hne : k * twoPow j ≠ 0 := Nat.mul_ne_zero hzero (Nat.ne_of_gt (twoPow_pos j))
      have hshort : (k * twoPow j).log2 < 53 + j := (Nat.log2_lt hne).2 hlong
      omega
    have hsplit : twoPow j =
        twoPow (j - ((k * twoPow j).log2 - 52)) * gridWidth (k * twoPow j) := by
      rw [gridWidth, ← twoPow_add, Nat.sub_add_cancel hlog]
    have hmul : k * twoPow j =
        k * twoPow (j - ((k * twoPow j).log2 - 52)) * gridWidth (k * twoPow j) := by
      rw [Nat.mul_assoc, ← hsplit]
    exact Nat.mod_eq_zero_of_dvd ⟨_, hmul.trans (Nat.mul_comm _ _)⟩
  · -- It is a power of two itself, and its grid is a smaller one.
    have hpower : twoPow 53 * twoPow j = twoPow (53 + j) := (twoPow_add 53 j).symm
    have hlog : (twoPow 53 * twoPow j).log2 = 53 + j := by
      refine log2_eq (Nat.le_of_eq hpower.symm) ?_
      rw [hpower, twoPow_succ]
      have := twoPow_pos (53 + j)
      omega
    have hgrid : gridWidth (twoPow 53 * twoPow j) = twoPow (j + 1) := by
      rw [gridWidth, hlog, show 53 + j - 52 = j + 1 by omega]
    rw [hgrid, hpower, show 53 + j = 52 + (j + 1) by omega, twoPow_add, Nat.mul_mod_left]

/-- What has been rounded is on its own grid. -/
lemma roundedUnits_mod (n : Nat) : roundedUnits n 1 % gridWidth (roundedUnits n 1) = 0 := by
  rcases Nat.le_total n.log2 52 with hshort | hlong
  · rw [roundedUnits_of_le hshort, gridWidth_of_le hshort, Nat.mod_one]
  · obtain ⟨k, hk, -, hhigh⟩ := roundedUnits_of_ge hlong
    rw [hk]
    exact mul_twoPow_mod hhigh _

end

/-! ## Numbers -/

/-- The place on the line of integers of the number nearest to a whole number of units.  Whatever is
too large for the format is rounded to infinity. -/
def nearest (u : Int) : Int :=
  if u < 0 then -((min (roundedUnits u.natAbs 1) limit : Nat) : Int)
  else ((min (roundedUnits u.natAbs 1) limit : Nat) : Int)

/-- A number that has been rounded fits the format unless it is too large. -/
lemma fits_roundedUnits {n : Nat} {u : Int} (hu : u.natAbs = roundedUnits n 1) :
    Fits u ↔ roundedUnits n 1 < limit := by
  rw [Fits, hu]
  exact and_iff_left (roundedUnits_mod n)

/-- Rounding gives the nearest number. -/
lemma key?_ofUnits (u : Int) : (ofUnits u).key? = some (nearest u) := by
  rw [ofUnits, ofQuotient, nearest]
  dsimp only
  by_cases hzero : roundedUnits u.natAbs 1 = 0
  · rw [if_pos hzero, hzero, Nat.zero_min]
    by_cases hu : u < 0 <;> simp [hu, signedZero, zero, key?]
  rw [if_neg hzero]
  by_cases hu : u < 0
  · rw [if_pos hu, decide_eq_true hu, if_pos rfl]
    have hfits := fits_roundedUnits (n := u.natAbs)
      (u := -(roundedUnits u.natAbs 1 : Int)) (by rw [Int.natAbs_neg, Int.natAbs_natCast])
    split
    · rename_i hlt
      rw [Nat.min_eq_left (Nat.le_of_lt (hfits.1 hlt))]
      rfl
    · rename_i hge
      rw [Nat.min_eq_right (Nat.le_of_not_lt (mt hfits.2 hge))]
      rfl
  · rw [if_neg hu, decide_eq_false hu, if_neg Bool.false_ne_true]
    have hfits := fits_roundedUnits (n := u.natAbs)
      (u := (roundedUnits u.natAbs 1 : Int)) (Int.natAbs_natCast _)
    split
    · rename_i hlt
      rw [Nat.min_eq_left (Nat.le_of_lt (hfits.1 hlt))]
      rfl
    · rename_i hge
      rw [Nat.min_eq_right (Nat.le_of_not_lt (mt hfits.2 hge))]
      rfl

/-- Rounding is monotone. -/
lemma nearest_mono {u v : Int} (h : u ≤ v) : nearest u ≤ nearest v := by
  rw [nearest, nearest]
  by_cases hv : v < 0
  · have hu : u < 0 := by omega
    have hmono := roundedUnits_mono (show v.natAbs ≤ u.natAbs by omega)
    rw [if_pos hu, if_pos hv]
    omega
  · rw [if_neg hv]
    by_cases hu : u < 0
    · rw [if_pos hu]
      omega
    · have hmono := roundedUnits_mono (show u.natAbs ≤ v.natAbs by omega)
      rw [if_neg hu]
      omega

/-- A number of the format is its own rounding. -/
lemma nearest_of_fits {u : Int} (h : Fits u) : nearest u = u := by
  have hsame : min (roundedUnits u.natAbs 1) limit = u.natAbs := by
    rw [roundedUnits_of_mod_eq_zero h.2]
    exact Nat.min_eq_left (Nat.le_of_lt h.1)
  rw [nearest, hsame]
  split <;> omega

variable {a b c t : Binary64}

/-- A finite number stands at its units, inside the format. -/
lemma exists_units_of_isFinite (h : a.isFinite = true) :
    ∃ u, a.units? = some u ∧ a.key? = some u ∧ Fits u := by
  cases a with
  | nan => cases h
  | infinity negative => cases h
  | negZero => exact ⟨0, rfl, rfl, fits_zero⟩
  | finite u fits => exact ⟨u, rfl, rfl, fits⟩

/-- The sum of finite numbers is the number nearest to their exact sum. -/
lemma key?_add {u v : Int} (ha : a.units? = some u) (hb : b.units? = some v) :
    (a + b).key? = some (nearest (u + v)) := by
  change (add a b).key? = _
  cases a with
  | nan => cases ha
  | infinity negative => cases ha
  | negZero =>
    cases b with
    | nan => cases hb
    | infinity negative => cases hb
    | negZero =>
      rw [← Option.some.inj ha, ← Option.some.inj hb, Int.add_zero, nearest_of_fits fits_zero]
      rfl
    | finite v fits =>
      rw [← Option.some.inj ha, ← Option.some.inj hb, Int.zero_add, nearest_of_fits fits]
      rfl
  | finite u fits =>
    cases b with
    | nan => cases hb
    | infinity negative => cases hb
    | negZero =>
      rw [← Option.some.inj ha, ← Option.some.inj hb, Int.add_zero, nearest_of_fits fits]
      rfl
    | finite v fits' =>
      rw [← Option.some.inj ha, ← Option.some.inj hb]
      exact key?_ofUnits (u + v)

/-- Changing the sign changes the sign of the units. -/
lemma units?_neg {v : Int} (hb : b.units? = some v) : (-b).units? = some (-v) := by
  change (neg b).units? = _
  cases b with
  | nan => cases hb
  | infinity negative => cases hb
  | negZero =>
    rw [← Option.some.inj hb]
    rfl
  | finite v fits =>
    rw [← Option.some.inj hb, neg]
    split
    · rename_i hzero
      rw [hzero]
      rfl
    · rfl

/-- The difference of finite numbers is the number nearest to their exact difference. -/
lemma key?_sub {u v : Int} (ha : a.units? = some u) (hb : b.units? = some v) :
    (a - b).key? = some (nearest (u - v)) :=
  key?_add ha (units?_neg hb)

/-! ## Quotients of numbers -/

section

variable {n d : Nat}

/-- A quotient is rounded to at most 53 significant bits. -/
lemma roundedUnits_eq_mul_twoPow (n d : Nat) :
    ∃ k j, roundedUnits n d = k * twoPow j ∧ k ≤ twoPow 53 := by
  refine ⟨divHalfEven n (d * gridWidth (n / d)), (n / d).log2 - 52, rfl, ?_⟩
  have hlong : n / d < twoPow 53 * gridWidth (n / d) := by
    have hlog : n / d < twoPow ((n / d).log2 + 1) := Nat.lt_log2_self
    have hpower : twoPow ((n / d).log2 + 1) ≤ twoPow (53 + ((n / d).log2 - 52)) :=
      twoPow_le (by omega)
    rw [gridWidth, ← twoPow_add]
    exact Nat.lt_of_lt_of_le hlog hpower
  have hquotient : n / (d * gridWidth (n / d)) < twoPow 53 := by
    rw [← Nat.div_div_eq_div_mul]
    exact (Nat.div_lt_iff_lt_mul (gridWidth_pos _)).2 hlong
  exact Nat.le_trans (divHalfEven_le_succ n _) hquotient

/-- Dividing by two or more does not lead above the dividend, even when rounding up. -/
lemma roundedUnits_le (hd : 1 < d) : roundedUnits n d ≤ n := by
  have hround : roundedUnits n d ≤ (n / (d * gridWidth (n / d)) + 1) * gridWidth (n / d) :=
    Nat.mul_le_mul_right _ (divHalfEven_le_succ n _)
  by_cases hsmall : n / d = 0
  · have hgrid : gridWidth (n / d) = 1 := gridWidth_of_le (by simp [hsmall])
    by_cases hzero : n = 0
    · have hpos : 0 < d * gridWidth 0 := Nat.mul_pos (by omega) (gridWidth_pos 0)
      have hnone := divHalfEven_mul 0 hpos
      rw [Nat.zero_mul] at hnone
      rw [hzero, roundedUnits, Nat.zero_div]
      have hunits : divHalfEven 0 (d * gridWidth 0) * gridWidth 0 = 0 := by
        rw [hnone, Nat.zero_mul]
      exact Nat.le_of_eq hunits
    · rw [hgrid, Nat.mul_one, Nat.mul_one, hsmall] at hround
      omega
  · have hgrid : gridWidth (n / d) ≤ n / d :=
      Nat.le_trans (twoPow_le (Nat.sub_le _ _)) (twoPow_log2_le hsmall)
    have hfloor : n / (d * gridWidth (n / d)) * gridWidth (n / d) ≤ n / d := by
      rw [← Nat.div_div_eq_div_mul]
      exact Nat.div_mul_le_self _ _
    have hdouble : 2 * (n / d) ≤ n :=
      Nat.le_trans (Nat.mul_le_mul_right _ hd) (Nat.mul_div_le n d)
    rw [Nat.add_mul, Nat.one_mul] at hround
    omega

/-- The quotient of a magnitude of the format by two or more is finite. -/
lemma isFinite_ofQuotient (negative : Bool) (hn : n < limit) (hd : 1 < d) :
    (ofQuotient negative n d).isFinite = true := by
  obtain ⟨k, j, hround, hk⟩ := roundedUnits_eq_mul_twoPow n d
  have hsize : roundedUnits n d < limit := Nat.lt_of_le_of_lt (roundedUnits_le hd) hn
  have hfits (u : Int) (hu : u.natAbs = roundedUnits n d) : Fits u := by
    rw [Fits, hu]
    refine ⟨hsize, ?_⟩
    rw [hround]
    exact mul_twoPow_mod hk j
  unfold ofQuotient
  dsimp only
  by_cases hzero : roundedUnits n d = 0
  · rw [if_pos hzero]
    cases negative <;> rfl
  · rw [if_neg hzero, dif_pos]
    · rfl
    · refine hfits _ ?_
      cases negative <;> simp

/-- A number divided by two or more is finite exactly if it was so before. -/
lemma isFinite_divNat (a : Binary64) (hd : 1 < d) : (a.divNat d).isFinite = a.isFinite := by
  cases a with
  | nan => rfl
  | infinity negative => rfl
  | negZero => rfl
  | finite u fits =>
    rw [divNat]
    split
    · rfl
    · exact isFinite_ofQuotient _ fits.1 hd

end

/-! ## Times and windows -/

/-- Numbers are compared by their places on the line. -/
lemma le_iff_of_key {i j : Int} (ha : a.key? = some i) (hb : b.key? = some j) : a ≤ b ↔ i ≤ j := by
  constructor
  · intro h
    obtain ⟨x, y, hx, hy, hxy⟩ := le_iff.1 h
    rw [ha] at hx
    rw [hb] at hy
    obtain rfl := Option.some.inj hx
    obtain rfl := Option.some.inj hy
    exact hxy
  · exact fun h => le_iff.2 ⟨i, j, ha, hb, h⟩

lemma lt_iff_of_key {i j : Int} (ha : a.key? = some i) (hb : b.key? = some j) : a < b ↔ i < j := by
  constructor
  · intro h
    obtain ⟨x, y, hx, hy, hxy⟩ := lt_iff.1 h
    rw [ha] at hx
    rw [hb] at hy
    obtain rfl := Option.some.inj hx
    obtain rfl := Option.some.inj hy
    exact hxy
  · exact fun h => lt_iff.2 ⟨i, j, ha, hb, h⟩

/-- A finite number is not above itself. -/
lemma le_self (h : a.isFinite = true) : a ≤ a := by
  obtain ⟨u, -, hkey, -⟩ := exists_units_of_isFinite h
  exact (le_iff_of_key hkey hkey).2 (Int.le_refl u)

protected lemma le_of_lt (h : a < b) : a ≤ b := by
  obtain ⟨x, y, hx, hy, hxy⟩ := lt_iff.1 h
  exact (le_iff_of_key hx hy).2 (Int.le_of_lt hxy)

/-- Whatever can be compared is not above itself. -/
lemma le_self_of_lt (h : b < a) : a ≤ a := by
  obtain ⟨-, y, -, hy, -⟩ := lt_iff.1 h
  exact (le_iff_of_key hy hy).2 (Int.le_refl y)

lemma isNaN_of_isFinite (h : a.isFinite = true) : a.isNaN = false := by
  cases a <;> first | rfl | cases h

/-- Whatever is a number has its place. -/
lemma exists_key_of_isNaN (h : a.isNaN = false) : ∃ i, a.key? = some i := by
  cases a with
  | nan => cases h
  | infinity negative => cases negative <;> exact ⟨_, rfl⟩
  | negZero => exact ⟨0, rfl⟩
  | finite u hfits => exact ⟨u, rfl⟩

/-- Whatever is above something is a number. -/
lemma isNaN_of_lt (h : b < a) : a.isNaN = false := by
  obtain ⟨-, y, -, hy, -⟩ := lt_iff.1 h
  cases a with
  | nan => cases hy
  | infinity negative => rfl
  | negZero => rfl
  | finite u hfits => rfl

lemma le_max (h : a ≤ a) (b : Binary64) : a ≤ max a b := by
  change a ≤ if a < b then b else a
  split
  · rename_i hlt
    exact Binary64.le_of_lt hlt
  · exact h

lemma isFinite_max (ha : a.isFinite = true) (hb : b.isFinite = true) :
    (max a b).isFinite = true := by
  change (if a < b then b else a).isFinite = true
  split
  · exact hb
  · exact ha

protected lemma le_trans (h : a ≤ b) (h' : b ≤ c) : a ≤ c := by
  obtain ⟨x, y, hx, hy, hxy⟩ := le_iff.1 h
  obtain ⟨-, z, -, hz, -⟩ := le_iff.1 h'
  have hyz := (le_iff_of_key hy hz).1 h'
  exact (le_iff_of_key hx hz).2 (Int.le_trans hxy hyz)

protected lemma lt_of_le_of_lt (h : a ≤ b) (h' : b < c) : a < c := by
  obtain ⟨x, y, hx, hy, hxy⟩ := le_iff.1 h
  obtain ⟨-, z, -, hz, -⟩ := lt_iff.1 h'
  have hyz := (lt_iff_of_key hy hz).1 h'
  exact (lt_iff_of_key hx hz).2 (Int.lt_of_le_of_lt hxy hyz)

protected lemma lt_of_lt_of_le (h : a < b) (h' : b ≤ c) : a < c := by
  obtain ⟨x, y, hx, hy, hxy⟩ := lt_iff.1 h
  obtain ⟨-, z, -, hz, -⟩ := le_iff.1 h'
  have hyz := (le_iff_of_key hy hz).1 h'
  exact (lt_iff_of_key hx hz).2 (Int.lt_of_lt_of_le hxy hyz)

protected lemma not_lt_of_le (h : a ≤ b) : ¬ b < a := by
  obtain ⟨x, y, hx, hy, hxy⟩ := le_iff.1 h
  rw [lt_iff_of_key hy hx]
  exact Int.not_lt.2 hxy

/-- The earlier a time is, the more time has passed since. -/
lemma sub_le_sub {s : Binary64} (ha : a.isFinite = true) (hb : b.isFinite = true)
    (hs : s.isFinite = true) (ht : t.isFinite = true) (hst : s ≤ t) (hab : a ≤ b) :
    s - b ≤ t - a := by
  obtain ⟨u, hu, hu', -⟩ := exists_units_of_isFinite ha
  obtain ⟨v, hv, hv', -⟩ := exists_units_of_isFinite hb
  obtain ⟨x, hx, hx', -⟩ := exists_units_of_isFinite hs
  obtain ⟨y, hy, hy', -⟩ := exists_units_of_isFinite ht
  have huv : u ≤ v := (le_iff_of_key hu' hv').1 hab
  have hxy : x ≤ y := (le_iff_of_key hx' hy').1 hst
  exact (le_iff_of_key (key?_sub hx hv) (key?_sub hy hu)).2 (nearest_mono (by omega))

/-- No time passes at a moment. -/
lemma sub_self_lt (ht : t.isFinite = true) (hpos : 0 < a) : t - t < a := by
  obtain ⟨y, hy, -, -⟩ := exists_units_of_isFinite ht
  obtain ⟨x, z, hx, hz, hxz⟩ := lt_iff.1 hpos
  have hzero : (0 : Binary64).key? = some 0 := by decide
  rw [hzero] at hx
  obtain rfl := Option.some.inj hx
  have hnone := key?_sub hy hy
  rw [Int.sub_self, nearest_of_fits fits_zero] at hnone
  exact (lt_iff_of_key hnone hz).2 hxz

/-- No rounding leads below the infinities. -/
lemma neg_limit_le_nearest (u : Int) : -(limit : Int) ≤ nearest u := by
  rw [nearest]
  split <;> omega

/-- What has units stands there, inside the format. -/
lemma key_of_units {u : Int} (h : a.units? = some u) : a.key? = some u ∧ Fits u := by
  cases a with
  | nan => cases h
  | infinity negative => cases h
  | negZero =>
    obtain rfl := Option.some.inj h
    exact ⟨rfl, fits_zero⟩
  | finite v fits =>
    obtain rfl := Option.some.inj h
    exact ⟨rfl, fits⟩

/-- What lies before a horizon lies so even before it is rounded. -/
lemma units_lt_of_lt_sub {m : Binary64} {u x y : Int} (ha : a.units? = some u)
    (hm : m.units? = some x) (ht : t.units? = some y) (h : a < t - m) : u + x < y := by
  obtain ⟨hkey, hfits⟩ := key_of_units ha
  have hbefore : u < nearest (y - x) := (lt_iff_of_key hkey (key?_sub ht hm)).1 h
  rcases Int.lt_or_le (u + x) y with hlt | hle
  · exact hlt
  · have hmono := nearest_mono (show y - x ≤ u by omega)
    rw [nearest_of_fits hfits] at hmono
    omega

/-- What lies so far back before it is rounded does so afterwards. -/
lemma le_sub_of_units_le {m : Binary64} {u x y : Int} (ha : a.units? = some u)
    (hm : m.units? = some x) (ht : t.units? = some y) (h : u + x ≤ y) : a ≤ t - m := by
  obtain ⟨hkey, hfits⟩ := key_of_units ha
  have hmono := nearest_mono (show u ≤ y - x by omega)
  rw [nearest_of_fits hfits] at hmono
  exact (le_iff_of_key hkey (key?_sub ht hm)).2 hmono

/-- What lies before a finite horizon is at least as old as the memory reaches back. -/
lemma le_sub_of_lt_sub_of_isFinite {m : Binary64} (ha : a.isFinite = true)
    (ht : t.isFinite = true) (hm : m.isFinite = true) (h : a < t - m) : m ≤ t - a := by
  obtain ⟨u, hu, -, -⟩ := exists_units_of_isFinite ha
  obtain ⟨y, hy, -, -⟩ := exists_units_of_isFinite ht
  obtain ⟨x, hx, hx', hfits⟩ := exists_units_of_isFinite hm
  have hlonger := units_lt_of_lt_sub hu hx hy h
  have hmono := nearest_mono (show x ≤ y - u by omega)
  rw [nearest_of_fits hfits] at hmono
  exact (le_iff_of_key hx' (key?_sub hy hu)).2 hmono

/-- What lies before the horizon is at least as old as the memory reaches back, be it endless or
not. -/
lemma le_sub_of_lt_sub {m : Binary64} (ha : a.isFinite = true) (ht : t.isFinite = true)
    (h : a < t - m) : m ≤ t - a := by
  obtain ⟨u, hu, hu', hfits⟩ := exists_units_of_isFinite ha
  obtain ⟨y, hy, -, -⟩ := exists_units_of_isFinite ht
  cases m with
  | nan =>
    have hnan : t - nan = nan := by cases t <;> rfl
    rw [hnan] at h
    obtain ⟨-, y, -, hy, -⟩ := lt_iff.1 h
    cases hy
  | infinity negative =>
    cases negative with
    | true => exact (le_iff_of_key rfl (key?_sub hy hu)).2 (neg_limit_le_nearest _)
    | false =>
      have hbottom : t - infinity false = infinity true := by
        cases t with
        | nan => cases ht
        | infinity _ => cases ht
        | negZero => rfl
        | finite _ _ => rfl
      rw [hbottom] at h
      have hlow : u < -(limit : Int) := (lt_iff_of_key hu' rfl).1 h
      have hsize := hfits.1
      omega
  | negZero => exact le_sub_of_lt_sub_of_isFinite ha ht rfl h
  | finite x fits => exact le_sub_of_lt_sub_of_isFinite ha ht rfl h

/-- A window that is not negative does not reach beyond the moment at its end. -/
lemma not_lt_sub_of_nonneg {m : Binary64} (ht : t.isFinite = true) (hm : 0 ≤ m) : ¬ t < t - m := by
  intro h
  obtain ⟨u, hu, hu', hfits⟩ := exists_units_of_isFinite ht
  have hzero : (0 : Binary64).key? = some 0 := by decide
  have hfinite (hm' : m.isFinite = true) : False := by
    obtain ⟨x, hx, hx', -⟩ := exists_units_of_isFinite hm'
    have hpos : 0 ≤ x := (le_iff_of_key hzero hx').1 hm
    have hlt : u < nearest (u - x) := (lt_iff_of_key hu' (key?_sub hu hx)).1 h
    have hmono := nearest_mono (show u - x ≤ u by omega)
    rw [nearest_of_fits hfits] at hmono
    omega
  cases m with
  | nan =>
    obtain ⟨-, y, -, hy, -⟩ := le_iff.1 hm
    cases hy
  | infinity negative =>
    cases negative with
    | true =>
      have hlow : (0 : Int) ≤ -(limit : Int) := (le_iff_of_key hzero rfl).1 hm
      have hpos := limit_pos
      omega
    | false =>
      have hold := le_sub_of_lt_sub ht ht h
      obtain ⟨i, j, hi, hj, hij⟩ := le_iff.1 hold
      rw [key?_sub hu hu, Int.sub_self, nearest_of_fits fits_zero] at hj
      cases hi
      cases hj
      have hpos := limit_pos
      omega
  | negZero => exact hfinite rfl
  | finite x fits => exact hfinite rfl

/-- No place is beyond the infinities. -/
lemma bounds_of_key {i : Int} (h : a.key? = some i) : -(limit : Int) ≤ i ∧ i ≤ limit := by
  have hpos := limit_pos
  cases a with
  | nan => cases h
  | infinity negative =>
    cases negative with
    | true =>
      obtain rfl := Option.some.inj h
      omega
    | false =>
      obtain rfl := Option.some.inj h
      omega
  | negZero =>
    obtain rfl := Option.some.inj h
    omega
  | finite u fits =>
    obtain rfl := Option.some.inj h
    have hsize := fits.1
    omega

/-- Nothing lies before an endless past. -/
lemma not_lt_infinity_sub (m : Binary64) : ¬ a < infinity true - m := by
  intro h
  obtain ⟨x, y, hx, hy, hxy⟩ := lt_iff.1 h
  have hplace : y = -(limit : Int) := by
    cases m with
    | nan => cases hy
    | infinity negative =>
      cases negative with
      | true => cases hy
      | false => exact (Option.some.inj hy).symm
    | negZero => exact (Option.some.inj hy).symm
    | finite u fits =>
      have hneg : infinity true - finite u fits = infinity true := by
        change add (infinity true) (neg (finite u fits)) = _
        rw [neg]
        split <;> rfl
      rw [hneg] at hy
      exact (Option.some.inj hy).symm
  have hlow := (bounds_of_key hx).1
  omega

/-- What lies before one time and has another one so far before it is finite. -/
lemma isFinite_of_lt_sub_of_lt {m : Binary64} (h : a < b - m) (h' : b < c) : b.isFinite = true := by
  cases b with
  | nan =>
    obtain ⟨x, -, hx, -, -⟩ := lt_iff.1 h'
    cases hx
  | infinity negative =>
    cases negative with
    | true => exact absurd h (not_lt_infinity_sub m)
    | false =>
      obtain ⟨x, y, hx, hy, hxy⟩ := lt_iff.1 h'
      obtain rfl := Option.some.inj hx
      have hhigh := (bounds_of_key hy).2
      omega
  | negZero => rfl
  | finite u fits => rfl

/-- A window that is not negative is over when it has passed twice. -/
lemma lt_sub_trans {m : Binary64} (hm : 0 ≤ m) (h : a < b - m) (h' : b < t - m) : a < t - m := by
  have hfinite := isFinite_of_lt_sub_of_lt h h'
  obtain ⟨-, i, -, hi, -⟩ := lt_iff.1 h
  obtain ⟨j, -, hj, -, -⟩ := lt_iff.1 h'
  have hnot := not_lt_sub_of_nonneg hfinite hm
  rw [lt_iff_of_key hj hi, Int.not_lt] at hnot
  exact Binary64.lt_of_lt_of_le (Binary64.lt_of_lt_of_le h ((le_iff_of_key hi hj).2 hnot))
    (Binary64.le_of_lt h')

end Binary64

end IssueDispatch
