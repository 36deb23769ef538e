import IssueDispatch.Number.Summation
import IssueDispatch.Proofs.Number.Rounding
import Mathlib.Algebra.BigOperators.Group.List.Basic
import Mathlib.Algebra.Ring.Int.Defs
import Mathlib.Data.List.Infix

/-!
# Sums that are exact

A sum of binary64 numbers is exact as long as the exact sum of what has been added so far always
fits the format: then there is nothing to round, neither if the numbers are just added up nor if
what the roundings lose is kept beside the sum.
-/

namespace IssueDispatch

namespace Binary64

variable {a b : Binary64} {xs : List Binary64}

/-- What stands inside the format is finite and has its place as units. -/
lemma units?_of_key {u : Int} (hkey : a.key? = some u) (hfits : Fits u) : a.units? = some u := by
  have hpos := limit_pos
  have hsize := hfits.1
  cases a with
  | nan => cases hkey
  | infinity negative =>
    -- The infinities stand at the limit, where nothing fits.
    cases negative <;> obtain rfl := Option.some.inj hkey <;> omega
  | negZero => exact hkey
  | finite v fits => exact hkey

/-- A sum that fits the format is not rounded. -/
lemma units?_add_of_fits {u v : Int} (ha : a.units? = some u) (hb : b.units? = some v)
    (hfits : Fits (u + v)) : (a + b).units? = some (u + v) := by
  refine units?_of_key ?_ hfits
  rw [key?_add ha hb, nearest_of_fits hfits]

/-- A difference that fits the format is not rounded. -/
lemma units?_sub_of_fits {u v : Int} (ha : a.units? = some u) (hb : b.units? = some v)
    (hfits : Fits (u - v)) : (a - b).units? = some (u - v) :=
  units?_add_of_fits ha (units?_neg hb) hfits

lemma fits_neg {u : Int} (h : Fits u) : Fits (-u) := by
  unfold Fits at *
  rwa [Int.natAbs_neg]

@[simp] lemma units?_zero : (0 : Binary64).units? = some 0 := by decide

lemma isFinite_of_units {u : Int} (h : a.units? = some u) : a.isFinite = true := by
  cases a <;> first | rfl | cases h

/-- The exact sum of some finite numbers, in units. -/
def exactSum (xs : List Binary64) : Int := (xs.map fun x => x.units?.getD 0).sum

@[simp] lemma exactSum_append (xs ys : List Binary64) :
    exactSum (xs ++ ys) = exactSum xs + exactSum ys := by
  simp [exactSum]

lemma exactSum_singleton {u : Int} (ha : a.units? = some u) : exactSum [a] = u := by
  simp [exactSum, ha]

/-- Some finite numbers can be added one after the other without any rounding. -/
structure AddExactly (xs : List Binary64) : Prop where
  finite : ∀ x ∈ xs, x.isFinite = true
  fits : ∀ ys, ys <+: xs → Fits (exactSum ys)

lemma addExactly_iff_inits : AddExactly xs ↔
    (∀ x ∈ xs, x.isFinite = true) ∧ ∀ ys ∈ xs.inits, Fits (exactSum ys) := by
  simp only [List.mem_inits]
  exact ⟨fun h => ⟨h.finite, h.fits⟩, fun h => ⟨h.1, h.2⟩⟩

instance : Decidable (AddExactly xs) := decidable_of_iff' _ addExactly_iff_inits

namespace AddExactly

lemma of_prefix {ys : List Binary64} (h : AddExactly xs) (hinit : ys <+: xs) : AddExactly ys where
  finite x hx := h.finite x (hinit.subset hx)
  fits zs hzs := h.fits zs (hzs.trans hinit)

/-- The last number has units, and with them the sum still fits. -/
lemma exists_units_last {x : Binary64} (h : AddExactly (xs ++ [x])) :
    ∃ v, x.units? = some v ∧ Fits v ∧ exactSum (xs ++ [x]) = exactSum xs + v ∧
      Fits (exactSum xs + v) := by
  obtain ⟨v, hv, -, hfits⟩ := exists_units_of_isFinite (h.finite x (by simp))
  have hsum : exactSum (xs ++ [x]) = exactSum xs + v := by
    rw [exactSum_append, exactSum_singleton hv]
  exact ⟨v, hv, hfits, hsum, hsum ▸ h.fits _ (List.prefix_refl _)⟩

/-- Numbers that add exactly are added up exactly. -/
lemma units?_foldl (h : AddExactly xs) :
    (xs.foldl (· + ·) 0).units? = some (exactSum xs) := by
  induction xs using List.reverseRecOn with
  | nil => exact units?_zero
  | append_singleton xs x ih =>
    obtain ⟨v, hv, -, hsum, hfits⟩ := h.exists_units_last
    rw [List.foldl_append, List.foldl_cons, List.foldl_nil, hsum]
    exact units?_add_of_fits (ih (h.of_prefix (List.prefix_append _ _))) hv hfits

end AddExactly

end Binary64

namespace RunningSum

open Binary64

/-- One number less a sum of two, with the other one put back, is nothing. -/
lemma units?_sub_add {a b s : Binary64} {u v : Int} (ha : a.units? = some u)
    (hb : b.units? = some v) (hs : s.units? = some (u + v)) (hv : Fits v) :
    (a - s + b).units? = some 0 := by
  have hback : u - (u + v) = -v := by omega
  have hrest := units?_sub_of_fits ha hs (hback ▸ fits_neg hv)
  have hnone : u - (u + v) + v = 0 := by omega
  rw [← hnone]
  exact units?_add_of_fits hrest hb (hnone ▸ fits_zero)

/-- A sum that fits the format loses nothing. -/
lemma loss_of_fits {a b : Binary64} {u v : Int} (ha : a.units? = some u) (hb : b.units? = some v)
    (hu : Fits u) (hv : Fits v) (hfits : Fits (u + v)) : (loss a b).units? = some 0 := by
  have hsum := units?_add_of_fits ha hb hfits
  rw [loss]
  split
  · exact units?_sub_add ha hb hsum hv
  · exact units?_sub_add hb ha (Int.add_comm u v ▸ hsum) hu

/-- Numbers that add exactly are all in the sum, and nothing is lost. -/
lemma units?_foldl_add {xs : List Binary64} (h : AddExactly xs) :
    (xs.foldl add {}).sum.units? = some (exactSum xs) ∧ (xs.foldl add {}).lost.units? = some 0 := by
  induction xs using List.reverseRecOn with
  | nil => exact ⟨units?_zero, units?_zero⟩
  | append_singleton xs x ih =>
    have hbefore := h.of_prefix (List.prefix_append xs [x])
    obtain ⟨hsum, hlost⟩ := ih hbefore
    obtain ⟨v, hv, hfitsv, hnext, hfits⟩ := h.exists_units_last
    rw [List.foldl_append, List.foldl_cons, List.foldl_nil, hnext]
    refine ⟨units?_add_of_fits hsum hv hfits, ?_⟩
    have hloss := loss_of_fits hsum hv (hbefore.fits _ (List.prefix_refl _)) hfitsv hfits
    exact units?_add_of_fits hlost hloss fits_zero

end RunningSum

/-- The sum of numbers that add exactly is their exact sum. -/
lemma Binary64.units?_sum {xs : List Binary64} (h : AddExactly xs) :
    (Binary64.sum xs).units? = some (exactSum xs) := by
  obtain ⟨hsum, hlost⟩ := RunningSum.units?_foldl_add h
  rw [Binary64.sum, RunningSum.total, if_pos (isFinite_of_units hlost)]
  have htotal := units?_add_of_fits hsum hlost
  rw [Int.add_zero] at htotal
  exact htotal (h.fits _ (List.prefix_refl _))

end IssueDispatch
