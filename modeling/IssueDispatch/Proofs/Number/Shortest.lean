import IssueDispatch.Number.Shortest
import IssueDispatch.Proofs.Number.Decimal
import IssueDispatch.Proofs.Number.Numeral

/-!
# The shortest decimal reads back

The search for the shortest decimal tries up to seventeen significant digits and takes the first
decimal that reads back.  With seventeen digits one of the two decimals around a number always does,
because it is closer than one part in `2 ^ 54`, so the search never comes back empty.
-/

namespace IssueDispatch.Binary64

variable {u v m places : Nat} {e g leading : Int}

/-! ## The leading digit -/

/-- What a power of ten is compared with. -/
lemma powerLe_iff : powerLe e u = true ↔
    (decimalQuotient 1 e).1 ≤ u * (decimalQuotient 1 e).2 := by
  rcases Int.lt_or_le e 0 with h | h
  · rw [powerLe, if_neg (Int.not_le.2 h), decimalQuotient_of_neg h, Nat.one_mul, decide_eq_true_iff]
  · rw [powerLe, if_pos h, decimalQuotient_of_nonneg h, Nat.one_mul, Nat.mul_one,
      decide_eq_true_iff]

lemma powerLe_mono (h : powerLe e u = true) (huv : u ≤ v) : powerLe e v = true :=
  powerLe_iff.2 (Nat.le_trans (powerLe_iff.1 h) (Nat.mul_le_mul_right _ huv))

/-- A magnitude at least `10 ^ k` times as large as a unit of its grid has `k` digits there after
the first. -/
lemma tenPow_mul_le_iff {k : Nat} :
    tenPow k * (decimalQuotient 1 g).1 ≤ u * (decimalQuotient 1 g).2 ↔
      powerLe (g + k) u = true := by
  have hsame := decimalQuotient_mul_tenPow 1 k g
  rw [Nat.one_mul, decimalQuotient_fst (tenPow k), decimalQuotient_snd (tenPow k)] at hsame
  have hpos := decimalQuotient_snd_pos 1 (g + k)
  have hpos' := decimalQuotient_snd_pos 1 g
  rw [powerLe_iff, ← Nat.mul_le_mul_right_iff hpos, hsame,
    Nat.mul_right_comm u, Nat.mul_le_mul_right_iff hpos']

/-- For each length of a magnitude the estimate from the binary logarithm is at most one too
large. -/
lemma powerLe_estimate : ∀ k ∈ List.range 2098,
    powerLe (((k : Int) - 1074) * 30103 / 100000 - 1) (twoPow k) = true := by
  decide +kernel

lemma twoPow_mul (n k : Nat) : twoPow (n * k) = Nat.pow (twoPow n) k := Nat.pow_mul 2 n k

lemma log2_lt_of_lt_limit (hu : u ≠ 0) (hlimit : u < limit) : u.log2 < 2098 := by
  have hpower : limit = twoPow 2098 := by
    rw [limit, unitsPerOne, ← twoPow_mul, ← twoPow_mul, ← twoPow_add]
  refine Nat.lt_of_not_le fun hle => ?_
  have hlow := twoPow_log2_le hu
  have hhigh := twoPow_le hle
  omega

/-- The leading exponent is one of a power of ten below the magnitude, and it is in the range of the
format. -/
lemma leadingExponent_spec (hu : u ≠ 0) (hlimit : u < limit) :
    powerLe (leadingExponent u) u = true ∧ -325 ≤ leadingExponent u ∧
      leadingExponent u ≤ 309 := by
  have hlog := log2_lt_of_lt_limit hu hlimit
  have hleast := powerLe_mono (powerLe_estimate u.log2 (List.mem_range.2 hlog)) (twoPow_log2_le hu)
  rw [leadingExponent]
  split
  · rename_i h
    exact ⟨h, by omega, by omega⟩
  · split
    · rename_i h
      exact ⟨h, by omega, by omega⟩
    · exact ⟨hleast, by omega, by omega⟩

/-- A power of ten below twice a magnitude of the format is in the range of the format. -/
lemma lt_of_powerLe (hlimit : u < limit) (h : powerLe e (2 * u) = true) : e < 310 := by
  refine Int.not_le.1 fun hle => ?_
  obtain ⟨k, rfl⟩ := Int.le.dest hle
  have hleast : (decimalQuotient 1 310).1 ≤ 2 * u * (decimalQuotient 1 310).2 :=
    Nat.le_trans (Nat.le_mul_of_pos_left _ (tenPow_pos k)) (tenPow_mul_le_iff.2 h)
  have hhigh : powerLe 310 (2 * limit) = true :=
    powerLe_mono (powerLe_iff.2 hleast) (by omega)
  have hnone : powerLe 310 (2 * limit) = false := by decide +kernel
  rw [hnone] at hhigh
  cases hhigh

/-! ## Seventeen digits -/

/-- The largest multiple of a power of ten that is not above a magnitude. -/
def gridBelow (u : Nat) (g : Int) : Nat :=
  if 0 ≤ g then u / (tenPow g.toNat * unitsPerOne) else u * tenPow (-g).toNat / unitsPerOne

lemma gridBelow_eq (u : Nat) (g : Int) :
    gridBelow u g = u * (decimalQuotient 1 g).2 / (decimalQuotient 1 g).1 := by
  rcases Int.lt_or_le g 0 with h | h
  · rw [gridBelow, if_neg (Int.not_le.2 h), decimalQuotient_of_neg h, Nat.one_mul]
  · rw [gridBelow, if_pos h, decimalQuotient_of_nonneg h, Nat.mul_one, Nat.one_mul]

lemma decimalQuotient_fst_pos (g : Int) : 0 < (decimalQuotient 1 g).1 := by
  rcases Int.lt_or_le g 0 with h | h
  · rw [decimalQuotient_of_neg h, Nat.one_mul]
    exact unitsPerOne_pos
  · rw [decimalQuotient_of_nonneg h, Nat.one_mul]
    exact Nat.mul_pos (tenPow_pos _) unitsPerOne_pos

/-- Whether a decimal reads back to a magnitude. -/
def readsBack (u places m : Nat) (g : Int) : Bool :=
  (ofDecimal false m (places + 1) g).key? == some (u : Int)

/-- A hit is one of the two neighbours on the grid, and reads back. -/
lemma gridHit?_eq_some (h : gridHit? u leading places = some (m, g)) :
    g = leading - (places - 1 : Int) ∧ m ≤ gridBelow u g + 1 ∧ readsBack u places m g = true := by
  unfold gridHit? at h
  extract_lets g' below back above at h
  split at h
  · rename_i hbelow habove
    split at h
    · obtain ⟨rfl, rfl⟩ := Prod.mk.inj (Option.some.inj h)
      exact ⟨rfl, Nat.le_succ _, hbelow⟩
    · obtain ⟨rfl, rfl⟩ := Prod.mk.inj (Option.some.inj h)
      exact ⟨rfl, Nat.le_refl _, habove⟩
  · rename_i hbelow _
    obtain ⟨rfl, rfl⟩ := Prod.mk.inj (Option.some.inj h)
    exact ⟨rfl, Nat.le_succ _, hbelow⟩
  · rename_i _ habove
    obtain ⟨rfl, rfl⟩ := Prod.mk.inj (Option.some.inj h)
    exact ⟨rfl, Nat.le_refl _, habove⟩
  · cases h

/-- There is a hit as soon as one of the neighbours reads back. -/
lemma exists_gridHit? (hg : g = leading - (places - 1 : Int))
    (h : readsBack u places (gridBelow u g) g = true ∨
      readsBack u places (gridBelow u g + 1) g = true) :
    ∃ hit, gridHit? u leading places = some hit := by
  subst hg
  unfold gridHit?
  extract_lets g' below back above
  split
  · split <;> exact ⟨_, rfl⟩
  · exact ⟨_, rfl⟩
  · exact ⟨_, rfl⟩
  · rename_i hbelow habove
    rcases h with h | h
    · cases h.symm.trans hbelow
    · cases h.symm.trans habove

/-- A decimal of up to eighteen digits that is close to a magnitude of the format reads back. -/
lemma readsBack_of_near (hu : u ≠ 0) (hfits : Fits u) (hlow : -341 ≤ g) (hhigh : g ≤ 300)
    (habove : (m * (decimalQuotient 1 g).1 - u * (decimalQuotient 1 g).2) * twoPow 54 <
      u * (decimalQuotient 1 g).2)
    (hbelow : (u * (decimalQuotient 1 g).2 - m * (decimalQuotient 1 g).1) * twoPow 54 <
      u * (decimalQuotient 1 g).2) : readsBack u 17 m g = true := by
  have hm : m ≠ 0 := by
    rintro rfl
    rw [Nat.zero_mul, Nat.sub_zero] at hbelow
    exact absurd hbelow (Nat.not_lt.2 (Nat.le_mul_of_pos_right _ (twoPow_pos 54)))
  have hunits : decimalUnits m g = u := by
    rw [decimalUnits, decimalQuotient_fst, decimalQuotient_snd]
    exact roundedUnits_eq_of_near hu hfits.2 habove hbelow
  rw [readsBack, ofDecimal_eq false hm (by omega) (by omega) hunits hu hfits, beq_iff_eq]
  rfl

/-- With seventeen digits one of the neighbours of a magnitude is so close to it that it reads
back. -/
lemma readsBack_seventeen (hu : u ≠ 0) (hfits : Fits u) (hg : g = leadingExponent u - 16) :
    readsBack u 17 (gridBelow u g) g = true ∨ readsBack u 17 (gridBelow u g + 1) g = true := by
  obtain ⟨hleading, hlow, hhigh⟩ := leadingExponent_spec hu hfits.1
  have hdigits : tenPow 16 * (decimalQuotient 1 g).1 ≤ u * (decimalQuotient 1 g).2 := by
    refine tenPow_mul_le_iff.2 ?_
    rw [hg]
    exact (Int.sub_add_cancel _ _).symm ▸ hleading
  have hpos := decimalQuotient_fst_pos g
  have hdiv := Nat.div_add_mod (u * (decimalQuotient 1 g).2) (decimalQuotient 1 g).1
  have hmod := Nat.mod_lt (u * (decimalQuotient 1 g).2) hpos
  rw [← gridBelow_eq, Nat.mul_comm] at hdiv
  have hsucc := Nat.add_mul (gridBelow u g) 1 (decimalQuotient 1 g).1
  have hten : tenPow 16 = 10000000000000000 := by decide
  have htwo : twoPow 54 = 18014398509481984 := by decide
  rw [hten] at hdigits
  rcases Nat.le_total (2 * (u * (decimalQuotient 1 g).2 % (decimalQuotient 1 g).1))
    (decimalQuotient 1 g).1 with hnear | hnear
  · refine Or.inl (readsBack_of_near hu hfits (by omega) (by omega) ?_ ?_) <;> rw [htwo] <;> omega
  · refine Or.inr (readsBack_of_near hu hfits (by omega) (by omega) ?_ ?_) <;> rw [htwo] <;> omega

/-- The shortest decimal is a hit for some number of digits. -/
lemma exists_gridHit?_shortestDecimal (hu : u ≠ 0) (hfits : Fits u) :
    ∃ i < 17, gridHit? u (leadingExponent u) (i + 1) = some (shortestDecimal u) := by
  have hg : leadingExponent u - 16 = leadingExponent u - ((17 : Nat) - 1 : Int) := by omega
  obtain ⟨hit, hhit⟩ := exists_gridHit? hg (readsBack_seventeen hu hfits rfl)
  have hsome : ((List.range 17).findSome? fun i =>
      gridHit? u (leadingExponent u) (i + 1)).isSome = true :=
    List.findSome?_isSome_iff.2 ⟨16, by decide, by rw [hhit]; rfl⟩
  obtain ⟨found, hfound⟩ := Option.isSome_iff_exists.1 hsome
  obtain ⟨i, hi, hfirst⟩ := List.exists_of_findSome?_eq_some hfound
  rw [shortestDecimal, hfound]
  exact ⟨i, List.mem_range.1 hi, hfirst⟩

/-- The shortest decimal reads back, and its exponents are in the range of the format. -/
lemma shortestDecimal_spec (hu : u ≠ 0) (hfits : Fits u) (h : shortestDecimal u = (m, g)) :
    m ≠ 0 ∧ decimalUnits m g = u ∧ -341 ≤ g ∧ ∀ k, tenPow k ≤ m → g + k < 310 := by
  obtain ⟨-, hlow, hhigh⟩ := leadingExponent_spec hu hfits.1
  obtain ⟨i, hi, hhit⟩ := exists_gridHit?_shortestDecimal hu hfits
  rw [h] at hhit
  obtain ⟨hg, hm, hback⟩ := gridHit?_eq_some hhit
  obtain ⟨hzero, hunits⟩ := decimalUnits_of_key hu hfits.1 (beq_iff_eq.1 hback)
  refine ⟨hzero, hunits, by omega, fun k hk => ?_⟩
  rcases k with - | k
  · omega
  · refine lt_of_powerLe hfits.1 (tenPow_mul_le_iff.1 ?_)
    have hbelow : gridBelow u g * (decimalQuotient 1 g).1 ≤ u * (decimalQuotient 1 g).2 := by
      rw [gridBelow_eq]
      exact Nat.div_mul_le_self _ _
    have hten := tenPow_pos k
    rw [tenPow_succ] at hk ⊢
    calc tenPow k * 10 * (decimalQuotient 1 g).1
      _ ≤ 2 * gridBelow u g * (decimalQuotient 1 g).1 := Nat.mul_le_mul_right _ (by omega)
      _ = 2 * (gridBelow u g * (decimalQuotient 1 g).1) := Nat.mul_assoc _ _ _
      _ ≤ 2 * (u * (decimalQuotient 1 g).2) := Nat.mul_le_mul_left 2 hbelow
      _ = 2 * u * (decimalQuotient 1 g).2 := (Nat.mul_assoc _ _ _).symm

/-! ## Digits -/

/-- Digits of which the first is not zero. -/
structure IsSignificant (digits : List Char) : Prop where
  isDigit : ∀ c ∈ digits, c.isDigit = true
  nonempty : digits ≠ []
  leading : digits.head? ≠ some '0'

/-- The digits of a positive number are significant. -/
lemma isSignificant_toDigits (hm : m ≠ 0) : IsSignificant (Nat.toDigits 10 m) where
  isDigit _ hc := Nat.isDigit_of_mem_toDigits (by decide) (by decide) hc
  nonempty := Nat.toDigits_ne_nil
  leading := by
    induction m using Nat.strongRecOn with
    | _ m ih =>
      rw [Nat.toDigits_eq_if (by decide)]
      split
      · simpa using hm
      · rw [List.head?_append, Option.or_of_isSome (by simp [Nat.toDigits_ne_nil])]
        exact ih (m / 10) (by omega) (by omega)

/-- Significant digits stay significant without the zeros at their end. -/
lemma exists_append_zeros {digits : List Char} (h : IsSignificant digits) :
    ∃ z, digits = (digits.reverse.dropWhile (· == '0')).reverse ++ List.replicate z '0' ∧
      IsSignificant (digits.reverse.dropWhile (· == '0')).reverse := by
  have hzeros : digits.reverse.takeWhile (· == '0') =
      List.replicate (digits.reverse.takeWhile (· == '0')).length '0' :=
    List.eq_replicate_of_mem fun c hc => beq_iff_eq.1 (List.all_eq_true.1 List.all_takeWhile c hc)
  have hsplit := List.takeWhile_append_dropWhile (p := (· == '0')) (l := digits.reverse)
  rw [hzeros, ← List.reverse_inj, List.reverse_append, List.reverse_replicate,
    List.reverse_reverse] at hsplit
  generalize (digits.reverse.takeWhile (· == '0')).length = z at hsplit
  generalize (digits.reverse.dropWhile (· == '0')).reverse = front at hsplit ⊢
  subst hsplit
  have hne : front ≠ [] := by
    rintro rfl
    obtain ⟨c, rest, hcons⟩ := List.exists_cons_of_ne_nil h.nonempty
    have hmem : c ∈ List.replicate z '0' := by
      rw [List.nil_append] at hcons
      rw [hcons]
      exact List.mem_cons_self
    obtain rfl := List.eq_of_mem_replicate hmem
    exact h.leading (by rw [hcons]; rfl)
  refine ⟨z, rfl, fun c hc => h.isDigit c (List.mem_append_left _ hc), hne, ?_⟩
  have hleading := h.leading
  rwa [List.head?_append, Option.or_of_isSome (by simpa using hne)] at hleading

lemma tenPow_length_toDigits_le (hm : m ≠ 0) : tenPow ((Nat.toDigits 10 m).length - 1) ≤ m := by
  refine Nat.le_of_not_lt fun hlt => ?_
  have hpos : 0 < (Nat.toDigits 10 m).length := Nat.length_toDigits_pos
  rcases Nat.eq_zero_or_pos ((Nat.toDigits 10 m).length - 1) with hone | hmore
  · rw [hone] at hlt
    exact hm (Nat.lt_one_iff.1 hlt)
  · have hle := (Nat.length_toDigits_le_iff (b := 10) (by decide) hmore).2 hlt
    omega

/-- The value of digits with zeros at their end. -/
lemma ofDigitChars_append_zeros (digits : List Char) (z : Nat) :
    Nat.ofDigitChars 10 (digits ++ List.replicate z '0') 0 =
      Nat.ofDigitChars 10 digits 0 * tenPow z := by
  rw [Nat.ofDigitChars_append, Nat.ofDigitChars_replicate_zero, Nat.mul_comm]
  rfl

/-- The digits of the shortest decimal of a magnitude stand for that magnitude, and so they do with
more zeros at their end. -/
lemma significantDigits_shortestDecimal (hu : u ≠ 0) (hfits : Fits u) :
    ∃ digits e, significantDigits (shortestDecimal u).1 (shortestDecimal u).2 = (digits, e) ∧
      IsSignificant digits ∧ -341 ≤ e ∧ e ≤ 309 ∧
      decimalUnits (Nat.ofDigitChars 10 digits 0) (e + 1 - digits.length) = u := by
  rcases hdecimal : shortestDecimal u with ⟨m, g⟩
  obtain ⟨hm, hunits, hlow, hhigh⟩ := shortestDecimal_spec hu hfits hdecimal
  obtain ⟨z, hz, hdigits⟩ := exists_append_zeros (isSignificant_toDigits hm)
  have hpos : 0 < (Nat.toDigits 10 m).length := Nat.length_toDigits_pos
  have hmost := hhigh _ (tenPow_length_toDigits_le hm)
  refine ⟨(List.dropWhile (· == '0') (Nat.toDigits 10 m).reverse).reverse,
    g + (Nat.toDigits 10 m).length - 1, rfl, hdigits, by omega, by omega, ?_⟩
  have hlength := congrArg List.length hz
  have hvalue := congrArg (Nat.ofDigitChars 10 · 0) hz
  rw [List.length_append, List.length_replicate] at hlength
  rw [Nat.ofDigitChars_ten_toDigits, ofDigitChars_append_zeros] at hvalue
  rw [hvalue, decimalUnits_mul_tenPow] at hunits
  generalize (List.dropWhile (· == '0') (Nat.toDigits 10 m).reverse).reverse = digits at *
  rw [← hunits]
  congr 1
  omega

end IssueDispatch.Binary64
