import IssueDispatch.Value.JsonText
import IssueDispatch.Proofs.Number.Numeral
import IssueDispatch.Proofs.Number.Shortest
import Mathlib.Data.List.TakeDrop

/-!
# Numerals in a JSON text

A numeral is read part by part: the digits before the point, a fraction and an exponent, each up to
the first character that does not belong to it.  The shortest decimal of a magnitude is laid out in
one of four ways: with an exponent, with zeros before its digits, with zeros after them, or with the
point among them.  In each of them the significant digits are read, possibly with more zeros at
their end, and these do not change the decimal; so `readNumber?_shortestLayout` gives back the
magnitude that has been written.
-/

namespace IssueDispatch.Json

open Text

variable {c : Char} {cs whole fraction rest : List Char} {negative : Bool}

/-- What may follow a value: nothing, a comma or a closing bracket. -/
def Ends (rest : List Char) : Prop := ∀ c ∈ rest.head?, c = ',' ∨ c = ']' ∨ c = '\x7d'

/-- Digits. -/
def AreDigits (cs : List Char) : Prop := ∀ c ∈ cs, c.isDigit = true

lemma areDigits_nil : AreDigits [] := by simp [AreDigits]

lemma areDigits_zeros (n : Nat) : AreDigits (List.replicate n '0') := by
  intro c hc
  rw [List.eq_of_mem_replicate hc]
  decide

lemma AreDigits.append {ds : List Char} (hcs : AreDigits cs) (hds : AreDigits ds) :
    AreDigits (cs ++ ds) := by
  intro c hc
  rcases List.mem_append.1 hc with hc | hc
  · exact hcs c hc
  · exact hds c hc

/-- No digit comes next. -/
def NoDigitNext (rest : List Char) : Prop := ∀ c ∈ rest.head?, c.isDigit = false

lemma noDigitNext_cons (h : c.isDigit = false) : NoDigitNext (c :: rest) := by
  intro c' hc'
  obtain rfl := Option.some.inj hc'
  exact h

lemma Ends.noDigitNext (h : Ends rest) : NoDigitNext rest := by
  intro c hc
  rcases h c hc with rfl | rfl | rfl <;> decide

lemma isAsciiDigit_eq (c : Char) : isAsciiDigit c = c.isDigit := by
  rw [isAsciiDigit, Bool.eq_iff_iff, Bool.and_eq_true, decide_eq_true_iff, decide_eq_true_iff,
    Char.isDigit_iff_toNat]
  exact Iff.rfl

lemma takeAsciiDigits_append (hcs : AreDigits cs) (hrest : NoDigitNext rest) :
    takeAsciiDigits (cs ++ rest) = (cs, rest) := by
  have hdigits : ∀ c ∈ cs, isAsciiDigit c = true := fun c hc => by
    rw [isAsciiDigit_eq]
    exact hcs c hc
  have hnone : rest.takeWhile isAsciiDigit = [] ∧ rest.dropWhile isAsciiDigit = rest := by
    rcases rest with - | ⟨c, rest⟩
    · exact ⟨rfl, rfl⟩
    · have hc : isAsciiDigit c = false := by
        rw [isAsciiDigit_eq]
        exact hrest c rfl
      rw [List.takeWhile_cons_of_neg (by simp [hc]), List.dropWhile_cons_of_neg (by simp [hc])]
      exact ⟨rfl, rfl⟩
  rw [takeAsciiDigits, List.span_eq_takeWhile_dropWhile, List.takeWhile_append_of_pos hdigits,
    List.dropWhile_append_of_pos hdigits, hnone.1, hnone.2, List.append_nil]

/-- The digits before the point: a single zero, or digits of which the first is not zero. -/
structure IsWhole (whole : List Char) : Prop where
  digits : AreDigits whole
  nonempty : whole ≠ []
  leading : whole.head? = some '0' → whole = ['0']

lemma isWhole_zero : IsWhole ['0'] where
  digits := areDigits_zeros 1
  nonempty := List.cons_ne_nil _ _
  leading _ := rfl

lemma takeWhole_append (h : IsWhole whole) (hrest : NoDigitNext rest) :
    takeWhole (whole ++ rest) = (whole, rest) := by
  rw [takeWhole, takeAsciiDigits_append h.digits hrest]
  split
  · rename_i more rest' heq
    obtain ⟨rfl, rfl⟩ := Prod.mk.inj heq
    obtain rfl := (List.cons.inj (h.leading rfl)).2
    rfl
  · rfl

lemma takeFraction_append (hfraction : AreDigits fraction) (hne : fraction ≠ [])
    (hrest : NoDigitNext rest) : takeFraction ('.' :: (fraction ++ rest)) = (fraction, rest) := by
  rw [takeFraction, takeAsciiDigits_append hfraction hrest]
  split
  · rename_i heq
    exact absurd (Prod.mk.inj heq).1 hne
  · rfl

/-- Without a point there is no fraction. -/
lemma takeFraction_of_ne (h : rest.head? ≠ some '.') : takeFraction rest = ([], rest) := by
  rw [takeFraction.eq_def]
  split
  · exact absurd rfl h
  · rfl

lemma Ends.head_ne_point (h : Ends rest) : rest.head? ≠ some '.' := fun hpoint => by
  rcases h '.' hpoint with heq | heq | heq <;> cases heq

/-- Without a mark there is no exponent. -/
lemma takeExponent_of_ends (h : Ends rest) : takeExponent rest = (none, rest) := by
  rw [takeExponent.eq_def]
  split
  · rename_i mark tail
    rcases h mark rfl with rfl | rfl | rfl <;> rfl
  · rfl

/-- An exponent with its sign. -/
lemma takeExponent_append (minus : Bool) (hcs : AreDigits cs) (hne : cs ≠ [])
    (hrest : NoDigitNext rest) :
    takeExponent ('e' :: (if minus then '-' else '+') :: (cs ++ rest)) =
      (some (if minus then -(ofDigits (digitValues cs) : Int) else ofDigits (digitValues cs)),
        rest) := by
  have hsign : takeSign ((if minus then '-' else '+') :: (cs ++ rest)) = (minus, cs ++ rest) := by
    cases minus <;> rfl
  rw [takeExponent, if_pos (Or.inl rfl), hsign]
  dsimp only
  rw [takeAsciiDigits_append hcs hrest]
  split
  · rename_i heq
    exact absurd (Prod.mk.inj heq).1 hne
  · rename_i heq
    obtain ⟨rfl, rfl⟩ := Prod.mk.inj heq
    rfl

variable {cs' cs'' : List Char} {exponent? : Option Int}

/-- A number is read part by part. -/
lemma readNumber?_eq_float (hwhole : takeWhole cs = (whole, cs'))
    (hfraction : takeFraction cs' = (fraction, cs''))
    (hexponent : takeExponent cs'' = (exponent?, rest)) (hne : whole ≠ [])
    (hfloat : fraction ≠ [] ∨ exponent? ≠ none) :
    readNumber? negative cs = some (.float (decimalNumber negative (digitValues whole)
      (digitValues fraction) (exponent?.getD 0)), rest) := by
  have hnot : ¬ (fraction.isEmpty = true ∧ exponent?.isNone = true) := by
    rintro ⟨hfraction, hexponent⟩
    rcases hfloat with h | h
    · exact h (List.isEmpty_iff.1 hfraction)
    · exact h (Option.isNone_iff_eq_none.1 hexponent)
  rw [readNumber?, hwhole]
  dsimp only
  rw [hfraction]
  dsimp only
  rw [hexponent]
  dsimp only
  rw [numberOf?, if_neg (by simpa using hne), if_neg hnot]
  rfl

lemma readNumber?_int (h : IsWhole whole) (hlength : whole.length ≤ maxIntegerDigits)
    (hrest : Ends rest) :
    readNumber? negative (whole ++ rest) =
      some (.int (if negative then -(ofDigits (digitValues whole) : Int)
        else ofDigits (digitValues whole)), rest) := by
  rw [readNumber?, takeWhole_append h hrest.noDigitNext]
  dsimp only
  rw [takeFraction_of_ne hrest.head_ne_point]
  dsimp only
  rw [takeExponent_of_ends hrest]
  dsimp only
  rw [numberOf?, if_neg (by simpa using h.nonempty), if_pos ⟨rfl, rfl⟩,
    if_neg (Nat.not_lt.2 hlength)]
  rfl

/-! ## Layouts -/

open Binary64

variable {digits : List Char} {e : Int}

lemma isWhole_append (h : IsSignificant digits) (z : Nat) :
    IsWhole (digits ++ List.replicate z '0') where
  digits := AreDigits.append h.isDigit (areDigits_zeros z)
  nonempty hnil := h.nonempty (List.append_eq_nil_iff.1 hnil).1
  leading hzero := by
    rw [List.head?_append, Option.or_of_isSome (by simpa using h.nonempty)] at hzero
    exact absurd hzero h.leading

lemma ofDigits_digitValues (cs : List Char) :
    ofDigits (digitValues cs) = Nat.ofDigitChars 10 cs 0 := ofDigits_map cs

/-- Zeros in front of significant digits are dropped. -/
lemma dropWhile_digitValues (h : IsSignificant digits) (k z : Nat) :
    (digitValues (List.replicate k '0' ++ (digits ++ List.replicate z '0'))).dropWhile (· == 0) =
      digitValues (digits ++ List.replicate z '0') := by
  obtain ⟨c, tail, rfl⟩ := List.exists_cons_of_ne_nil h.nonempty
  have hlow := (bounds_of_isDigit (h.isDigit c List.mem_cons_self)).1
  have hc : c.toNat ≠ 48 := fun hcode => h.leading (congrArg some (Char.toNat_inj.1 hcode))
  have hpositive : (c.toNat - 48 == 0) = false := by
    rw [beq_eq_false_iff_ne]
    omega
  rw [digitValues, List.map_append, List.dropWhile_append_of_pos]
  · rw [List.cons_append, List.map_cons, List.dropWhile_cons, hpositive]
    rfl
  · intro value hvalue
    obtain ⟨c', hc', rfl⟩ := List.mem_map.1 hvalue
    obtain rfl := List.eq_of_mem_replicate hc'
    rfl

/-- What is read are the digits after the zeros in front. -/
lemma decimalNumber_eq (h : IsSignificant digits) {k z : Nat} {exponent : Int}
    (hparts : whole ++ fraction = List.replicate k '0' ++ (digits ++ List.replicate z '0'))
    (hexponent : exponent - fraction.length = e + 1 - digits.length - z) :
    decimalNumber negative (digitValues whole) (digitValues fraction) exponent =
      ofDecimal negative (Nat.ofDigitChars 10 digits 0 * tenPow z) (digits.length + z)
        (e + 1 - digits.length - z) := by
  have happend : digitValues whole ++ digitValues fraction = digitValues (whole ++ fraction) :=
    List.map_append.symm
  have hlength (cs : List Char) : (digitValues cs).length = cs.length := List.length_map _
  rw [decimalNumber, happend, hparts, dropWhile_digitValues h, ofDigits_digitValues,
    ofDigitChars_append_zeros, hlength, hlength, List.length_append, List.length_replicate,
    hexponent]

/-- The digits of an exponent, with a zero in front when there is only one. -/
lemma paddedDigits_toList (width n : Nat) : AreDigits (Text.paddedDigits width n).toList ∧
    (Text.paddedDigits width n).toList ≠ [] ∧
    ofDigits (digitValues (Text.paddedDigits width n).toList) = n := by
  have hchars : (Text.paddedDigits width n).toList =
      List.replicate (width - (Nat.toDigits 10 n).length) '0' ++ Nat.toDigits 10 n :=
    String.toList_ofList
  rw [hchars]
  refine ⟨(areDigits_zeros _).append fun c hc => ?_, fun hnil => ?_, ?_⟩
  · exact Nat.isDigit_of_mem_toDigits (by decide) (by decide) hc
  · exact Nat.toDigits_ne_nil (List.append_eq_nil_iff.1 hnil).2
  · rw [ofDigits_digitValues, Nat.ofDigitChars_append, Nat.ofDigitChars_replicate_zero,
      Nat.mul_zero, Nat.ofDigitChars_ten_toDigits]

/-- The exponent of a layout. -/
lemma takeExponent_layout (hrest : Ends rest) :
    takeExponent ((if e < 0 then "e-" else "e+").toList ++
      ((Text.paddedDigits 2 e.natAbs).toList ++ rest)) = (some e, rest) := by
  obtain ⟨hdigits, hne, hvalue⟩ := paddedDigits_toList 2 e.natAbs
  have hmark : (if e < 0 then "e-" else "e+").toList =
      ['e', if decide (e < 0) = true then '-' else '+'] := by
    by_cases hneg : e < 0
    · rw [if_pos hneg, decide_eq_true hneg]
      rfl
    · rw [if_neg hneg, decide_eq_false hneg]
      rfl
  have hread := takeExponent_append (decide (e < 0)) hdigits hne hrest.noDigitNext
  rw [hmark]
  refine hread.trans ?_
  rw [hvalue]
  congr 2
  rcases Int.lt_or_le e 0 with hneg | hpos
  · rw [decide_eq_true hneg, if_pos rfl]
    omega
  · rw [decide_eq_false (Int.not_lt.2 hpos), if_neg Bool.false_ne_true]
    omega

/-- What a layout of significant digits stands for, read with `z` more zeros at its end. -/
def laidOut (negative : Bool) (digits : List Char) (e : Int) (z : Nat) : Value :=
  .float (ofDecimal negative (Nat.ofDigitChars 10 digits 0 * tenPow z) (digits.length + z)
    (e + 1 - digits.length - z))

/-- One digit before the point, and an exponent. -/
lemma readNumber?_scientific {tail point : List Char} (h : IsSignificant (c :: tail))
    (hpoint : tail = [] ∧ point = [] ∨ tail ≠ [] ∧ point = '.' :: tail) (hrest : Ends rest) :
    readNumber? negative ([c] ++ (point ++ ((if e < 0 then "e-" else "e+").toList ++
        ((Text.paddedDigits 2 e.natAbs).toList ++ rest)))) =
      some (laidOut negative (c :: tail) e 0, rest) := by
  have hwhole : IsWhole [c] := {
    digits := fun c' hc' => h.isDigit c' (by
      rw [List.mem_singleton.1 hc']
      exact List.mem_cons_self)
    nonempty := List.cons_ne_nil _ _
    leading := fun hzero => absurd hzero h.leading }
  have htail : AreDigits tail := fun c' hc' => h.isDigit c' (List.mem_cons_of_mem _ hc')
  generalize hmarked : (if e < 0 then "e-" else "e+").toList ++
    ((Text.paddedDigits 2 e.natAbs).toList ++ rest) = marked
  have hnext : marked.head? = some 'e' := by
    rw [← hmarked]
    split <;> rfl
  have hexponent : takeExponent marked = (some e, rest) := hmarked ▸ takeExponent_layout hrest
  have hmark : NoDigitNext marked := fun c' hc' => by
    rw [hnext] at hc'
    obtain rfl := Option.some.inj hc'
    decide
  have hlength : ((c :: tail).length : Int) = tail.length + 1 := by simp
  have hvalue : decimalNumber negative (digitValues [c]) (digitValues tail) e = _ :=
    decimalNumber_eq h (k := 0) (z := 0) (e := e) (by simp) (by omega)
  rcases hpoint with ⟨rfl, rfl⟩ | ⟨hne, rfl⟩
  · rw [List.nil_append, readNumber?_eq_float (takeWhole_append hwhole hmark)
      (takeFraction_of_ne (by rw [hnext]; decide)) hexponent hwhole.nonempty
      (Or.inr (Option.some_ne_none e))]
    exact congrArg (fun x => some (Value.float x, rest)) hvalue
  · change readNumber? negative ([c] ++ '.' :: (tail ++ marked)) = _
    rw [readNumber?_eq_float (takeWhole_append hwhole (noDigitNext_cons (by decide)))
      (takeFraction_append htail hne hmark) hexponent hwhole.nonempty
      (Or.inr (Option.some_ne_none e))]
    exact congrArg (fun x => some (Value.float x, rest)) hvalue

/-- A point, and no exponent. -/
lemma readNumber?_positional (h : IsSignificant digits) (hwhole : IsWhole whole)
    (hfraction : AreDigits fraction) (hne : fraction ≠ []) {k z : Nat}
    (hparts : whole ++ fraction = List.replicate k '0' ++ (digits ++ List.replicate z '0'))
    (hexponent : (fraction.length : Int) + e + 1 = digits.length + z) (hrest : Ends rest) :
    readNumber? negative (whole ++ '.' :: (fraction ++ rest)) =
      some (laidOut negative digits e z, rest) := by
  rw [readNumber?_eq_float (takeWhole_append hwhole (noDigitNext_cons (by decide)))
    (takeFraction_append hfraction hne hrest.noDigitNext) (takeExponent_of_ends hrest)
    hwhole.nonempty (Or.inl hne)]
  exact congrArg (fun x => some (Value.float x, rest))
    (decimalNumber_eq h hparts (by rw [Option.getD_none]; omega))

lemma isWhole_take (h : IsSignificant digits) (n : Nat) :
    IsWhole (digits.take (n + 1)) where
  digits c hc := h.isDigit c (List.mem_of_mem_take hc)
  nonempty hnil := by
    rcases List.take_eq_nil_iff.1 hnil with hn | hdigits
    · omega
    · exact h.nonempty hdigits
  leading hzero := by
    rw [List.head?_take, if_neg (Nat.succ_ne_zero n)] at hzero
    exact absurd hzero h.leading

/-- A layout is read as what it stands for. -/
lemma readNumber?_layout (h : IsSignificant digits) (hrest : Ends rest) :
    ∃ z, readNumber? negative ((layout digits e).toList ++ rest) =
      some (laidOut negative digits e z, rest) := by
  have hdigits : AreDigits digits := h.isDigit
  rw [layout.eq_def]
  split
  · obtain ⟨c, tail, rfl⟩ := List.exists_cons_of_ne_nil h.nonempty
    refine ⟨0, ?_⟩
    rcases tail with - | ⟨c', tail⟩
    · have hread : readNumber? negative _ = some (laidOut negative _ e 0, rest) :=
        readNumber?_scientific h (Or.inl ⟨rfl, rfl⟩) hrest
      simpa using hread
    · have hread : readNumber? negative _ = some (laidOut negative _ e 0, rest) :=
        readNumber?_scientific h (Or.inr ⟨List.cons_ne_nil _ _, rfl⟩) hrest
      simpa using hread
  split
  · -- Zeros stand before the digits.
    rename_i hneg
    refine ⟨0, ?_⟩
    have hfraction := (areDigits_zeros (e.natAbs - 1)).append hdigits
    have hparts : ['0'] ++ (List.replicate (e.natAbs - 1) '0' ++ digits) =
        List.replicate (e.natAbs - 1 + 1) '0' ++ (digits ++ List.replicate 0 '0') := by
      simp [List.replicate_succ]
    have hread : readNumber? negative _ = some (laidOut negative digits e 0, rest) :=
      readNumber?_positional h isWhole_zero hfraction (by simp [h.nonempty]) hparts
        (by rw [List.length_append, List.length_replicate]; omega) hrest
    simpa using hread
  rename_i hneg
  extract_lets whole
  split
  · -- Zeros stand after the digits.
    rename_i hle
    refine ⟨whole - digits.length + 1, ?_⟩
    have hparts : digits ++ List.replicate (whole - digits.length) '0' ++ ['0'] =
        List.replicate 0 '0' ++ (digits ++ List.replicate (whole - digits.length + 1) '0') := by
      simp [List.replicate_succ']
    have hread : readNumber? negative _ =
        some (laidOut negative digits e (whole - digits.length + 1), rest) :=
      readNumber?_positional h (isWhole_append h _) isWhole_zero.digits isWhole_zero.nonempty hparts
        (by rw [List.length_singleton]; omega) hrest
    simpa using hread
  · -- The point stands among the digits.
    rename_i hlt
    refine ⟨0, ?_⟩
    have hfraction : AreDigits (digits.drop whole) := fun c hc =>
      hdigits c (List.mem_of_mem_drop hc)
    have hparts : digits.take whole ++ digits.drop whole =
        List.replicate 0 '0' ++ (digits ++ List.replicate 0 '0') := by
      simp
    have hread : readNumber? negative _ = some (laidOut negative digits e 0, rest) :=
      readNumber?_positional h (isWhole_take h e.toNat) hfraction
        (by rw [Ne, List.drop_eq_nil_iff]; omega) hparts
        (by rw [List.length_drop]; omega) hrest
    simpa using hread

variable {u : Nat}

lemma decimalUnits_zero (g : Int) : decimalUnits 0 g = 0 := by
  have hzero (d : Nat) : divHalfEven 0 d = 0 := by
    rw [divHalfEven, Nat.zero_div, Nat.zero_mod, if_pos (by omega)]
  rw [decimalUnits, decimalQuotient_fst, Nat.zero_mul, roundedUnits, hzero, Nat.zero_mul]

/-- The layout of the shortest decimal of a magnitude. -/
def shortestLayout (u : Nat) : String :=
  layout (significantDigits (shortestDecimal u).1 (shortestDecimal u).2).1
    (significantDigits (shortestDecimal u).1 (shortestDecimal u).2).2

/-- The layout of the shortest decimal of a magnitude is read as that magnitude. -/
lemma readNumber?_shortestLayout (hu : u ≠ 0)
    (hfits : Fits (if negative then -(u : Int) else u)) (hrest : Ends rest) :
    readNumber? negative ((shortestLayout u).toList ++ rest) =
      some (.float (.finite (if negative then -(u : Int) else u) hfits), rest) := by
  have hmagnitude : Fits (u : Int) := by
    cases negative with
    | false => exact hfits
    | true =>
      have hneg : Fits (-(u : Int)) := hfits
      rwa [Fits, Int.natAbs_neg] at hneg
  obtain ⟨digits, e, hdigits, hsignificant, hlow, hhigh, hunits⟩ :=
    significantDigits_shortestDecimal hu hmagnitude
  obtain ⟨z, hread⟩ : ∃ z, readNumber? negative ((layout digits e).toList ++ rest) =
      some (laidOut negative digits e z, rest) := readNumber?_layout hsignificant hrest
  have hvalue : Nat.ofDigitChars 10 digits 0 ≠ 0 := by
    intro hzero
    rw [hzero, decimalUnits_zero] at hunits
    exact hu hunits.symm
  have hmore : decimalUnits (Nat.ofDigitChars 10 digits 0 * tenPow z) (e + 1 - digits.length - z) =
      u := by
    rw [decimalUnits_mul_tenPow, Int.sub_add_cancel, hunits]
  rw [shortestLayout, hdigits, hread, laidOut, ofDecimal_eq negative
    (Nat.mul_ne_zero hvalue (Nat.ne_of_gt (tenPow_pos z))) (by omega) (by omega) hmore hu hfits]

end IssueDispatch.Json
