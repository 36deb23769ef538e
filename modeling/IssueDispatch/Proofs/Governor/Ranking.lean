import IssueDispatch.Governor.Scan
import Mathlib.Data.List.Nodup
import Mathlib.Data.List.Pairwise
import Mathlib.Tactic.Lemma

/-!
# The order of dispatches

A scan dispatches the actionable issues of a project by the rank of their overrides, and those of
one rank in the order of the list: `Actionable.byRank`.  Sorting is stable, so entries with a common
rank, such as all entries of one issue, keep their order.

An issue may stand in a list more than once.  Once it has been dispatched it is busy, so that later
entries of it come to nothing, while a dispatch that fails leaves the way open for the next entry.
`Actionable.admitted` are the entries that get through.  Which ones these are depends on the order
of the entries of each issue alone, so it is the same before and after sorting.
-/

namespace IssueDispatch

namespace Actionable

/-- The rank of the override of an actionable issue. -/
def rank (a : Actionable) : Nat := OverridePriority.rank a.priority

/-- Actionable issues by rank, and those of one rank in the order of the list. -/
def byRank (as : List Actionable) : List Actionable :=
  (List.range 4).flatMap fun r => as.filter fun a => a.rank == r

variable {as bs : List Actionable}

@[simp] lemma byRank_nil : byRank [] = [] := rfl

/-! ## Sorting by rank -/

@[simp] lemma rankLe_iff {a b : Actionable} : rankLe a b = true ↔ a.rank ≤ b.rank := by
  simp [rankLe, rank]

lemma rank_lt (a : Actionable) : a.rank < 4 :=
  Nat.lt_succ_of_le (OverridePriority.rank_le a.priority)

lemma rankLe_trans (a b c : Actionable) (hab : rankLe a b = true) (hbc : rankLe b c = true) :
    rankLe a c = true := by
  rw [rankLe_iff] at hab hbc ⊢
  exact Nat.le_trans hab hbc

lemma rankLe_total (a b : Actionable) : (rankLe a b || rankLe b a) = true := by
  rw [Bool.or_eq_true, rankLe_iff, rankLe_iff]
  exact Nat.le_total a.rank b.rank

/-- Sorting keeps the order of entries of which none has to come before another one. -/
lemma filter_mergeSort {p : Actionable → Bool}
    (h : ∀ a ∈ as, ∀ b ∈ as, p a = true → p b = true → a.rank ≤ b.rank) :
    (as.mergeSort rankLe).filter p = as.filter p := by
  have hpairwise : (as.filter p).Pairwise fun a b => rankLe a b = true := by
    refine List.pairwise_of_forall_mem_list fun a ha b hb => ?_
    rw [List.mem_filter] at ha hb
    rw [rankLe_iff]
    exact h a ha.1 b hb.1 ha.2 hb.2
  have hsublist : (as.filter p).Sublist (as.mergeSort rankLe) :=
    List.sublist_mergeSort rankLe_trans rankLe_total hpairwise List.filter_sublist
  have hchosen : (as.filter p).Sublist ((as.mergeSort rankLe).filter p) := by
    have := hsublist.filter p
    rwa [List.filter_filter, show (fun a => p a && p a) = p by funext a; simp] at this
  have hlength := ((List.mergeSort_perm as rankLe).filter p).length_eq
  exact (hchosen.eq_of_length hlength.symm).symm

/-- A sorted list falls into the entries below a rank and the others. -/
lemma filter_append_filter (h : as.Pairwise fun a b => rankLe a b = true) (n : Nat) :
    (as.filter fun a => a.rank < n) ++ (as.filter fun a => n ≤ a.rank) = as := by
  induction as with
  | nil => rfl
  | cons a as ih =>
    obtain ⟨hfirst, hrest⟩ := List.pairwise_cons.1 h
    by_cases hlow : a.rank < n
    · have hnot : ¬ n ≤ a.rank := Nat.not_le.2 hlow
      simpa [hlow, hnot] using ih hrest
    · have hhigh : n ≤ a.rank := Nat.not_lt.1 hlow
      have hall : ∀ b ∈ as, n ≤ b.rank := fun b hb =>
        Nat.le_trans hhigh (rankLe_iff.1 (hfirst b hb))
      have hnone : (as.filter fun b => b.rank < n) = [] := by
        simpa [List.filter_eq_nil_iff] using hall
      have hkept : (as.filter fun b => n ≤ b.rank) = as := by
        simpa [List.filter_eq_self] using hall
      simp [hlow, hhigh, hnone, hkept]

/-- A sorted list is made of its entries of each rank, one rank after the other. -/
lemma eq_flatMap_of_pairwise (h : as.Pairwise fun a b => rankLe a b = true) {n : Nat}
    (hn : ∀ a ∈ as, a.rank < n) :
    as = (List.range n).flatMap fun r => as.filter fun a => a.rank == r := by
  induction n generalizing as with
  | zero => exact List.eq_nil_iff_forall_not_mem.2 fun a ha => Nat.not_lt_zero _ (hn a ha)
  | succ n ih =>
    have hlow := ih (h.filter fun a => a.rank < n) fun a ha => by
      simpa using (List.mem_filter.1 ha).2
    have hclasses : ((List.range n).flatMap fun r =>
        (as.filter fun a => a.rank < n).filter fun a => a.rank == r) =
        (List.range n).flatMap fun r => as.filter fun a => a.rank == r := by
      refine List.flatMap_congr fun r hr => ?_
      rw [List.filter_filter]
      refine List.filter_congr fun a _ => ?_
      have hr := List.mem_range.1 hr
      by_cases hrank : a.rank = r
      · simp [hrank, hr]
      · simp [hrank]
    have htop : (as.filter fun a => n ≤ a.rank) = as.filter fun a => a.rank == n := by
      refine List.filter_congr fun a ha => ?_
      have := hn a ha
      rw [Bool.eq_iff_iff, decide_eq_true_iff, beq_iff_eq]
      omega
    rw [List.range_succ, List.flatMap_append, List.flatMap_singleton, ← hclasses, ← hlow, ← htop]
    exact (filter_append_filter h n).symm

/-- Sorting puts the entries of the lowest rank first, then those of the next one, and keeps the
order of the list among them. -/
lemma mergeSort_eq_byRank (as : List Actionable) : as.mergeSort rankLe = byRank as := by
  have hsorted := List.pairwise_mergeSort rankLe_trans rankLe_total as
  rw [eq_flatMap_of_pairwise hsorted fun a _ => a.rank_lt, byRank]
  refine List.flatMap_congr fun r _ => filter_mergeSort fun a _ b _ ha hb => ?_
  rw [beq_iff_eq] at ha hb
  exact Nat.le_of_eq (ha.trans hb.symm)

lemma byRank_perm (as : List Actionable) : (byRank as).Perm as := by
  rw [← mergeSort_eq_byRank]
  exact List.mergeSort_perm as rankLe

/-- Entries may be left out before or after the list is put in order. -/
lemma byRank_filter (p : Actionable → Bool) : byRank (as.filter p) = (byRank as).filter p := by
  rw [byRank, byRank, List.filter_flatMap]
  refine List.flatMap_congr fun r _ => ?_
  rw [List.filter_filter, List.filter_filter]
  exact List.filter_congr fun a _ => Bool.and_comm _ _

/-! ## Entries that get through -/

variable {ready : Actionable → Bool} {busy : String → Bool}

/-- The entries that get through if a list is dispatched one after the other: those that are ready
and whose issue is not busy.  Each of them makes its issue busy. -/
def admitted (ready : Actionable → Bool) : (String → Bool) → List Actionable → List Actionable
  | _, [] => []
  | busy, a :: as =>
    if !busy a.issue.id && ready a then
      a :: admitted ready (fun id => busy id || id == a.issue.id) as
    else admitted ready busy as

/-- Entries of busy issues may be left out beforehand. -/
lemma admitted_filter {p : Actionable → Bool}
    (hp : ∀ a ∈ as, p a = false → busy a.issue.id = true) :
    admitted ready busy (as.filter p) = admitted ready busy as := by
  induction as generalizing busy with
  | nil => rfl
  | cons a as ih =>
    obtain ⟨ha, has⟩ := List.forall_mem_cons.1 hp
    by_cases hpa : p a = true
    · rw [List.filter_cons_of_pos hpa, admitted, admitted]
      split
      · rw [ih fun b hb hpb => ?_]
        rw [has b hb hpb, Bool.true_or]
      · exact ih has
    · rw [List.filter_cons_of_neg hpa, ih has, admitted, ha (Bool.eq_false_iff.2 hpa)]
      rfl

/-- What gets through a list makes its issues busy for the next one. -/
lemma admitted_append (as bs : List Actionable) :
    admitted ready busy (as ++ bs) = admitted ready busy as ++ admitted ready
      (fun id => busy id || (admitted ready busy as).any fun a => id == a.issue.id) bs := by
  induction as generalizing busy with
  | nil => simp [admitted]
  | cons a as ih =>
    rw [List.cons_append, admitted, admitted]
    split
    · rw [ih, List.cons_append]
      simp only [List.any_cons, Bool.or_assoc]
    · exact ih

/-- An entry gets through if its issue is not busy and it is the first one of its issue that is
ready. -/
lemma mem_admitted_iff {a : Actionable} :
    a ∈ admitted ready busy as ↔ busy a.issue.id = false ∧
      as.find? (fun x => x.issue.id == a.issue.id && ready x) = some a := by
  induction as generalizing busy with
  | nil => simp [admitted]
  | cons b as ih =>
    rw [admitted, List.find?_cons]
    by_cases hb : busy b.issue.id = false ∧ ready b = true
    · rw [if_pos (by simp [hb]), List.mem_cons, ih]
      by_cases hissue : b.issue.id = a.issue.id
      · have hbusy : busy a.issue.id = false := hissue ▸ hb.1
        simp [hissue, hb.2, hbusy, eq_comm]
      · have hne : a ≠ b := fun h => hissue (congrArg (fun x => x.issue.id) h.symm)
        simp [beq_eq_false_iff_ne.2 hissue, hne, Ne.symm hissue]
    · have hskip : ¬ ((!busy b.issue.id && ready b) = true) := by simpa using hb
      rw [if_neg hskip, ih]
      by_cases hissue : b.issue.id = a.issue.id
      · rw [hissue] at hb
        cases hready : ready b with
        | false => simp
        | true => simp_all
      · simp [beq_eq_false_iff_ne.2 hissue]

/-- No issue gets through twice. -/
lemma nodup_admitted : ((admitted ready busy as).map fun a => a.issue.id).Nodup := by
  induction as generalizing busy with
  | nil => exact List.nodup_nil
  | cons a as ih =>
    rw [admitted]
    split
    · rw [List.map_cons, List.nodup_cons]
      refine ⟨fun hmem => ?_, ih⟩
      obtain ⟨b, hb, hissue⟩ := List.mem_map.1 hmem
      have hidle := (mem_admitted_iff.1 hb).1
      simp [hissue] at hidle
    · exact ih

/-- Whether the list is sorted or not, the same entries get through. -/
lemma admitted_mergeSort_perm
    (h : ∀ a ∈ as, ∀ b ∈ as, a.issue.id = b.issue.id → a.rank = b.rank) :
    (admitted ready busy (as.mergeSort rankLe)).Perm (admitted ready busy as) := by
  refine (List.perm_ext_iff_of_nodup nodup_admitted.of_map nodup_admitted.of_map).2 fun a => ?_
  have hfirst : (as.mergeSort rankLe).find? (fun x => x.issue.id == a.issue.id && ready x) =
      as.find? fun x => x.issue.id == a.issue.id && ready x := by
    rw [← List.head?_filter, ← List.head?_filter, filter_mergeSort fun x hx y hy hpx hpy => ?_]
    rw [Bool.and_eq_true, beq_iff_eq] at hpx hpy
    exact Nat.le_of_eq (h x hx y hy (hpx.1.trans hpy.1.symm))
  rw [mem_admitted_iff, mem_admitted_iff, hfirst]

/-- If no issue stands in the list twice, all entries that are ready get through, but those of
issues that are busy before. -/
lemma admitted_of_nodup (h : (as.map fun a => a.issue.id).Nodup) :
    admitted ready busy as = as.filter fun a => !busy a.issue.id && ready a := by
  induction as generalizing busy with
  | nil => rfl
  | cons a as ih =>
    rw [List.map_cons, List.nodup_cons] at h
    obtain ⟨hnew, hrest⟩ := h
    rw [admitted, List.filter_cons]
    split
    · rw [ih hrest]
      refine congrArg (a :: ·) (List.filter_congr fun b hb => ?_)
      have hne : b.issue.id ≠ a.issue.id := fun hissue => hnew (List.mem_map.2 ⟨b, hb, hissue⟩)
      simp [beq_eq_false_iff_ne.2 hne]
    · exact ih hrest

end Actionable

end IssueDispatch
