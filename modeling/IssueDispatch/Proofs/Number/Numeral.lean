import IssueDispatch.Number.Numeral
import Mathlib.Tactic.Lemma

/-!
# Numerals of natural numbers

The numeral of a natural number is read back as that number, as long as it is not longer than what
is read at all.  It consists of ASCII digits, so nothing is trimmed, no sign is split off, and no
digit is left over.
-/

namespace IssueDispatch

open Text

variable {cs : List Char} {c : Char}

/-- Decimal digits are what the standard library takes for digits. -/
lemma bounds_of_isDigit (h : c.isDigit = true) : 48 ≤ c.toNat ∧ c.toNat ≤ 57 := by
  rw [Char.isDigit_iff_toNat] at h
  exact h

lemma digit?_of_isDigit (h : c.isDigit = true) : digit? c = some (c.toNat - 48) := by
  obtain ⟨hlow, hhigh⟩ := bounds_of_isDigit h
  rw [digit?, if_pos (by omega), if_pos ⟨hlow, hhigh⟩]

lemma not_isBlank_of_isDigit (h : c.isDigit = true) : isBlank c = false := by
  obtain ⟨hlow, hhigh⟩ := bounds_of_isDigit h
  simp only [isBlank, Bool.or_eq_false_iff, Bool.and_eq_false_iff, decide_eq_false_iff_not,
    beq_eq_false_iff_ne]
  omega

lemma dropWhile_isBlank_of_isDigit (h : ∀ c ∈ cs, c.isDigit = true) :
    cs.dropWhile isBlank = cs := by
  rcases cs with - | ⟨c, rest⟩
  · rfl
  · rw [List.dropWhile_cons_of_neg]
    simp [not_isBlank_of_isDigit (h c List.mem_cons_self)]

lemma trimChars_of_isDigit (h : ∀ c ∈ cs, c.isDigit = true) : trimChars cs = cs := by
  have hreverse : ∀ c ∈ cs.reverse, c.isDigit = true := fun c hc => h c (List.mem_reverse.1 hc)
  rw [trimChars, dropWhile_isBlank_of_isDigit h, dropWhile_isBlank_of_isDigit hreverse,
    List.reverse_reverse]

lemma takeSign_of_isDigit (h : ∀ c ∈ cs, c.isDigit = true) : takeSign cs = (false, cs) := by
  unfold takeSign
  split
  · exact absurd (h '-' List.mem_cons_self) (by decide)
  · exact absurd (h '+' List.mem_cons_self) (by decide)
  · rfl

lemma takeDigits_of_isDigit (h : ∀ c ∈ cs, c.isDigit = true) (after : Bool) :
    takeDigits after cs = (cs.map fun c => c.toNat - 48, []) := by
  induction cs generalizing after with
  | nil => rfl
  | cons c rest ih =>
    obtain ⟨hc, hrest⟩ := List.forall_mem_cons.1 h
    rw [takeDigits, digit?_of_isDigit hc, ih hrest]
    rfl

lemma ofDigits_map (cs : List Char) :
    ofDigits (cs.map fun c => c.toNat - 48) = Nat.ofDigitChars 10 cs 0 := by
  rw [ofDigits, List.foldl_map, Nat.ofDigitChars_eq_foldl]
  rfl

/-- The numeral of a natural number is read back, unless it is too long. -/
lemma readInt?_toString {n : Nat} (h : (Nat.toDigits 10 n).length ≤ maxIntegerDigits) :
    readInt? (toString n) = some (n : Int) := by
  have hdigits : ∀ c ∈ Nat.toDigits 10 n, c.isDigit = true :=
    fun c hc => Nat.isDigit_of_mem_toDigits (by decide) (by decide) hc
  have hvalue : ofDigits ((Nat.toDigits 10 n).map fun c => c.toNat - 48) = n := by
    rw [ofDigits_map, Nat.ofDigitChars_ten_toDigits]
  have hchars : (toString n).toList = Nat.toDigits 10 n := by
    rw [Nat.toString_eq_ofList_toDigits, String.toList_ofList]
  rw [readInt?, hchars, trimChars_of_isDigit hdigits, takeSign_of_isDigit hdigits]
  dsimp only
  rw [takeDigits_of_isDigit hdigits]
  obtain ⟨c, rest, hne⟩ := List.exists_cons_of_ne_nil (Nat.toDigits_ne_nil (n := n) (b := 10))
  rw [hne, List.map_cons] at hvalue ⊢
  rw [hne] at h
  dsimp only
  rw [if_neg (by simpa using h), hvalue, if_neg Bool.false_ne_true]

end IssueDispatch
