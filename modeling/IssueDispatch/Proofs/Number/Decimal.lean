import IssueDispatch.Proofs.Number.Rounding
import Mathlib.Tactic.Ring

/-!
# Decimals near a number

A decimal is read as the number nearest to it.  A quotient that is close to a number of the format
is rounded to that number: it is enough that their distance is less than one part in `2 ^ 54`, which
is half the distance to the nearest neighbour in the worst case, just below a power of two.

A decimal can be written with more or with fewer zeros at its end; what is read does not depend on
them.
-/

namespace IssueDispatch

variable {n n' d d' k : Nat}

/-- A quotient is rounded to a whole number that is closer than one half. -/
lemma divHalfEven_eq_of_near (habove : 2 * n < 2 * (k * d) + d) (hbelow : 2 * (k * d) < 2 * n + d) :
    divHalfEven n d = k := by
  have hd : 0 < d := by omega
  have hn := Nat.div_add_mod n d
  have hr := Nat.mod_lt n hd
  rw [divHalfEven]
  by_cases hle : k * d ≤ n
  · have hq : n / d = k := by
      refine Nat.div_eq_of_lt_le (by omega) ?_
      rw [Nat.succ_mul]
      omega
    have hmul : d * (n / d) = k * d := by rw [hq, Nat.mul_comm]
    rw [if_pos (Or.inl (by omega)), hq]
  · obtain ⟨j, rfl⟩ : ∃ j, k = j + 1 := ⟨k - 1, by
      have : k ≠ 0 := by
        rintro rfl
        omega
      omega⟩
    have hstep : (j + 1) * d = j * d + d := Nat.succ_mul j d
    have hq : n / d = j := Nat.div_eq_of_lt_le (by omega) (by omega)
    have hmul : d * (n / d) = j * d := by rw [hq, Nat.mul_comm]
    rw [if_neg (by omega), hq]

/-- Rounding depends on the value of a quotient only. -/
lemma divHalfEven_mul_mul (n d : Nat) (hk : 0 < k) :
    divHalfEven (n * k) (d * k) = divHalfEven n d := by
  have hlt : 2 * (n % d * k) < d * k ↔ 2 * (n % d) < d := by
    rw [← Nat.mul_assoc, Nat.mul_lt_mul_right hk]
  have heq : 2 * (n % d * k) = d * k ↔ 2 * (n % d) = d := by
    rw [← Nat.mul_assoc, Nat.mul_left_inj (Nat.ne_of_gt hk)]
  rw [divHalfEven, divHalfEven, Nat.mul_div_mul_right n d hk, Nat.mul_mod_mul_right]
  simp only [hlt, heq]

namespace Binary64

variable {u v : Nat}

lemma roundedUnits_mul_mul (n d : Nat) (hk : 0 < k) :
    roundedUnits (n * k) (d * k) = roundedUnits n d := by
  rw [roundedUnits, roundedUnits, Nat.mul_div_mul_right n d hk, Nat.mul_right_comm,
    divHalfEven_mul_mul n _ hk]

lemma roundedUnits_congr (hd : 0 < d) (hd' : 0 < d') (h : n * d' = n' * d) :
    roundedUnits n d = roundedUnits n' d' := by
  rw [← roundedUnits_mul_mul n d hd', h, Nat.mul_comm d d', roundedUnits_mul_mul n' d' hd]

/-- A magnitude has at most 53 bits on its grid. -/
lemma lt_twoPow_mul_gridWidth (u : Nat) : u < twoPow 53 * gridWidth u := by
  have hlog : u < twoPow (u.log2 + 1) := Nat.lt_log2_self
  have hle : twoPow (u.log2 + 1) ≤ twoPow (53 + (u.log2 - 52)) := twoPow_le (by omega)
  rw [gridWidth, ← twoPow_add]
  omega

lemma twoPow_dvd (h : n ≤ k) : twoPow n ∣ twoPow k := Nat.pow_dvd_pow 2 h

/-- A quotient is rounded to a point of its grid that is closer than half of the width. -/
lemma roundedUnits_eq_of_width (hwidth : twoPow ((n / d).log2 - 52) = v) (hdvd : v ∣ u)
    (habove : 2 * n < 2 * (u * d) + v * d) (hbelow : 2 * (u * d) < 2 * n + v * d) :
    roundedUnits n d = u := by
  obtain ⟨k, rfl⟩ := hdvd
  have hpoint : k * (d * v) = v * k * d := by ring
  have hstep : d * v = v * d := Nat.mul_comm d v
  rw [roundedUnits, hwidth, divHalfEven_eq_of_near (k := k) (by omega) (by omega), Nat.mul_comm]

/-- Two points of a grid are at least its width apart. -/
lemma add_le_of_dvd {a b : Nat} (ha : v ∣ a) (hb : v ∣ b) (hab : a < b) : a + v ≤ b := by
  have hle := Nat.le_of_dvd (by omega) (Nat.dvd_sub hb ha)
  omega

/-- A distance of less than one part in `2 ^ 54` is less than half the width of a grid of 53
bits. -/
lemma two_mul_lt_of_near {x : Nat} (hx : x * twoPow 54 < u * d) (hv : u ≤ twoPow 53 * v) :
    2 * x < v * d := by
  have hdouble : twoPow 54 = 2 * twoPow 53 := by decide
  refine Nat.lt_of_mul_lt_mul_left (a := twoPow 53) ?_
  calc twoPow 53 * (2 * x) = x * twoPow 54 := by rw [hdouble]; ring
    _ < u * d := hx
    _ ≤ twoPow 53 * v * d := Nat.mul_le_mul_right d hv
    _ = twoPow 53 * (v * d) := Nat.mul_assoc _ _ _

/-- A quotient that is close to a number of the format is rounded to that number. -/
lemma roundedUnits_eq_of_near (hu : u ≠ 0) (hgrid : u % gridWidth u = 0)
    (habove : (n - u * d) * twoPow 54 < u * d) (hbelow : (u * d - n) * twoPow 54 < u * d) :
    roundedUnits n d = u := by
  have hd : 0 < d := Nat.pos_of_ne_zero fun h => by simp [h] at habove
  have hwidth : gridWidth u ∣ u := Nat.dvd_of_mod_eq_zero hgrid
  have hlow : twoPow u.log2 ≤ u := twoPow_log2_le hu
  have hhigh : u < twoPow (u.log2 + 1) := Nat.lt_log2_self
  have hlength : u ≤ twoPow 53 * gridWidth u := Nat.le_of_lt (lt_twoPow_mul_gridWidth u)
  have habove' := two_mul_lt_of_near habove hlength
  have hbelow' := two_mul_lt_of_near hbelow hlength
  rcases Nat.lt_or_ge (n / d) (twoPow u.log2) with hless | hmore
  · -- The quotient is shorter than the number, which therefore is a power of two.
    have hn : n < twoPow u.log2 * d := (Nat.div_lt_iff_lt_mul hd).1 hless
    have hpower : u = twoPow u.log2 := by
      refine Nat.le_antisymm (Nat.le_of_not_lt fun hlt => ?_) hlow
      have hgap := add_le_of_dvd (v := gridWidth u) (twoPow_dvd (Nat.sub_le _ _)) hwidth hlt
      have hmul := Nat.mul_le_mul_right d hgap
      rw [Nat.add_mul] at hmul
      omega
    have hhalf := two_mul_lt_of_near (v := u) hbelow (Nat.le_mul_of_pos_left u (twoPow_pos 53))
    have hlog : (n / d).log2 = u.log2 - 1 := by
      rcases hzero : u.log2 with - | e
      · rw [hzero] at hless
        have hnone : n / d = 0 := Nat.lt_one_iff.1 hless
        rw [hnone]
        rfl
      · rw [hzero] at hless hn hpower
        rw [Nat.add_sub_cancel]
        refine log2_eq ((Nat.le_div_iff_mul_le hd).2 ?_) hless
        rw [twoPow_succ] at hpower
        have hmul : u * d = 2 * (twoPow e * d) := by rw [hpower]; ring
        omega
    have hlength : u ≤ twoPow 53 * twoPow (u.log2 - 1 - 52) := by
      rw [← twoPow_add]
      exact Nat.le_trans (Nat.le_of_eq hpower) (twoPow_le (by omega))
    have hdvd : twoPow (u.log2 - 1 - 52) ∣ u := by
      have hpowers : twoPow (u.log2 - 1 - 52) ∣ twoPow u.log2 := twoPow_dvd (by omega)
      rwa [← hpower] at hpowers
    have habove := two_mul_lt_of_near habove hlength
    have hbelow := two_mul_lt_of_near hbelow hlength
    refine roundedUnits_eq_of_width ?_ hdvd (by omega) (by omega)
    rw [hlog]
  · -- The quotient has the length of the number, and so they share a grid.
    have hgap := add_le_of_dvd hwidth (twoPow_dvd (by omega)) hhigh
    have hmul := Nat.mul_le_mul_right d hgap
    rw [Nat.add_mul] at hmul
    have hlog : (n / d).log2 = u.log2 :=
      log2_eq hmore ((Nat.div_lt_iff_lt_mul hd).2 (by omega))
    refine roundedUnits_eq_of_width (v := gridWidth u) ?_ hwidth (by omega) (by omega)
    rw [hlog, gridWidth]

/-! ## Decimals -/

variable {m z : Nat} {g : Int}

/-- The magnitude, in units, as which a decimal is read. -/
def decimalUnits (m : Nat) (g : Int) : Nat :=
  roundedUnits (decimalQuotient m g).1 (decimalQuotient m g).2

lemma tenPow_add (n k : Nat) : tenPow (n + k) = tenPow n * tenPow k := Nat.pow_add 10 n k

lemma decimalQuotient_of_nonneg (h : 0 ≤ g) (m : Nat) :
    decimalQuotient m g = (m * tenPow g.toNat * unitsPerOne, 1) := by
  rw [decimalQuotient, if_pos h]

lemma decimalQuotient_of_neg (h : g < 0) (m : Nat) :
    decimalQuotient m g = (m * unitsPerOne, tenPow (-g).toNat) := by
  rw [decimalQuotient, if_neg (Int.not_le.2 h)]

lemma decimalQuotient_snd_pos (m : Nat) (g : Int) : 0 < (decimalQuotient m g).2 := by
  rcases Int.lt_or_le g 0 with h | h
  · rw [decimalQuotient_of_neg h]
    exact tenPow_pos _
  · rw [decimalQuotient_of_nonneg h]
    exact Nat.one_pos

lemma decimalQuotient_fst (m : Nat) (g : Int) :
    (decimalQuotient m g).1 = m * (decimalQuotient 1 g).1 := by
  rcases Int.lt_or_le g 0 with h | h
  · rw [decimalQuotient_of_neg h, decimalQuotient_of_neg h, Nat.one_mul]
  · rw [decimalQuotient_of_nonneg h, decimalQuotient_of_nonneg h, Nat.one_mul, Nat.mul_assoc]

lemma decimalQuotient_snd (m : Nat) (g : Int) :
    (decimalQuotient m g).2 = (decimalQuotient 1 g).2 := by
  rcases Int.lt_or_le g 0 with h | h
  · rw [decimalQuotient_of_neg h, decimalQuotient_of_neg h]
  · rw [decimalQuotient_of_nonneg h, decimalQuotient_of_nonneg h]

/-- Zeros at the end of a decimal do not change its value. -/
lemma decimalQuotient_mul_tenPow (m z : Nat) (g : Int) :
    (decimalQuotient (m * tenPow z) g).1 * (decimalQuotient m (g + z)).2 =
      (decimalQuotient m (g + z)).1 * (decimalQuotient (m * tenPow z) g).2 := by
  rcases Int.lt_or_le g 0 with h | h
  · rw [decimalQuotient_of_neg h]
    rcases Int.lt_or_le (g + z) 0 with hz | hz
    · have hsum : (-g).toNat = z + (-(g + z)).toNat := by omega
      rw [decimalQuotient_of_neg hz, hsum, tenPow_add]
      ring
    · have hsum : z = (g + z).toNat + (-g).toNat := by omega
      rw [decimalQuotient_of_nonneg hz]
      conv_lhs => rw [hsum, tenPow_add]
      ring
  · have hsum : (g + z).toNat = g.toNat + z := by omega
    rw [decimalQuotient_of_nonneg h, decimalQuotient_of_nonneg (by omega : 0 ≤ g + z), hsum,
      tenPow_add]
    ring

/-- They do not change what is read either. -/
lemma decimalUnits_mul_tenPow (m z : Nat) (g : Int) :
    decimalUnits (m * tenPow z) g = decimalUnits m (g + z) :=
  roundedUnits_congr (decimalQuotient_snd_pos _ _) (decimalQuotient_snd_pos _ _)
    (decimalQuotient_mul_tenPow m z g)

/-- A decimal in the range of the format is read as the magnitude nearest to it. -/
lemma ofDecimal_eq (negative : Bool) (hm : m ≠ 0) (hhigh : g + k ≤ 320) (hlow : -340 ≤ g + k)
    (hu : decimalUnits m g = u) (hzero : u ≠ 0)
    (hfits : Fits (if negative then -(u : Int) else u)) :
    ofDecimal negative m k g = .finite (if negative then -(u : Int) else u) hfits := by
  subst hu
  rw [ofDecimal, if_neg hm, if_neg (by omega), if_neg (by omega)]
  change ofQuotient negative (decimalQuotient m g).1 (decimalQuotient m g).2 = _
  rw [ofQuotient]
  change (if decimalUnits m g = 0 then _ else _) = _
  rw [if_neg hzero]
  exact dif_pos hfits

/-- Conversely, what is read as a finite magnitude is a decimal nearest to it. -/
lemma decimalUnits_of_key (hzero : u ≠ 0) (hlimit : u < limit)
    (h : (ofDecimal false m k g).key? = some (u : Int)) : m ≠ 0 ∧ decimalUnits m g = u := by
  have hplace : ((limit : Nat) : Int) ≠ u := by omega
  have hsigned : (signedZero false).key? ≠ some (u : Int) := by
    intro hkey
    have hsame : (0 : Int) = u := Option.some.inj hkey
    omega
  have hinfinite : (infinity false).key? ≠ some (u : Int) := fun hkey =>
    hplace (Option.some.inj hkey)
  rw [ofDecimal] at h
  split at h
  · exact absurd h hsigned
  rename_i hm
  split at h
  · exact absurd h hinfinite
  split at h
  · exact absurd h hsigned
  change (ofQuotient false (decimalQuotient m g).1 (decimalQuotient m g).2).key? = _ at h
  rw [ofQuotient] at h
  change (if decimalUnits m g = 0 then _ else _ : Binary64).key? = _ at h
  split at h
  · exact absurd h hsigned
  simp only [Bool.false_eq_true, if_false] at h
  split at h
  · exact ⟨hm, Int.ofNat.inj (Option.some.inj h)⟩
  · exact absurd h hinfinite

end Binary64

end IssueDispatch
