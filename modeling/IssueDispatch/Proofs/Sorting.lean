import Mathlib.Data.List.Basic
import Mathlib.Tactic.Lemma

/-!
# Stable sorting

The queue hands out work in a sorted order, and a scan dispatches issues in one.  Both sort by a key
that entries may share, and both rely on what happens to such entries: they keep the order in which
they were listed.  The lemmas below say this in the two forms in which it is used.  Entries may be
left out before or after sorting, and whatever holds between the entries of the list from left to
right holds between those of one key in the sorted list.
-/

namespace IssueDispatch

namespace Sorting

variable {α : Type}

/-- Where a list falls into two parts is seen from its entries, if a test tells the parts apart. -/
lemma eq_and_eq_of_append_eq {q : α → Bool} {as bs cs ds : List α} (h : as ++ bs = cs ++ ds)
    (has : ∀ a ∈ as, q a = false) (hbs : ∀ b ∈ bs, q b = true) (hcs : ∀ c ∈ cs, q c = false)
    (hds : ∀ d ∈ ds, q d = true) : as = cs ∧ bs = ds := by
  have hback (xs ys : List α) (hxs : ∀ x ∈ xs, q x = false) (hys : ∀ y ∈ ys, q y = true) :
      (xs ++ ys).filter q = ys := by
    have hnone : xs.filter q = [] := by simpa [List.filter_eq_nil_iff] using hxs
    rw [List.filter_append, hnone, List.filter_eq_self.2 hys, List.nil_append]
  have hrest : bs = ds := by rw [← hback as bs has hbs, h, hback cs ds hcs hds]
  subst hrest
  exact ⟨List.append_cancel_right h, rfl⟩

section Stable

variable {le : α → α → Bool} (htrans : ∀ a b c, le a b = true → le b c = true → le a c = true)
  (htotal : ∀ a b, (le a b || le b a) = true)

include htrans htotal

/-- Sorting a longer list inserts its head in front of the first entry that may stand behind it. -/
lemma exists_mergeSort_cons (a : α) (as : List α) :
    ∃ before after, (a :: as).mergeSort le = before ++ a :: after ∧
      as.mergeSort le = before ++ after ∧
      (∀ b ∈ before, le a b = false) ∧ ∀ b ∈ after, le a b = true := by
  obtain ⟨before, after, hlong, hshort, hbefore⟩ := List.mergeSort_cons htrans htotal a as
  refine ⟨before, after, hlong, hshort, fun b hb => ?_, fun b hb => ?_⟩
  · simpa using hbefore b hb
  · have hsorted := List.pairwise_mergeSort htrans htotal (a :: as)
    rw [hlong, List.pairwise_append, List.pairwise_cons] at hsorted
    exact hsorted.2.1.1 b hb

/-- Entries may be left out before or after a list is sorted. -/
lemma filter_mergeSort_comm (p : α → Bool) (as : List α) :
    (as.mergeSort le).filter p = (as.filter p).mergeSort le := by
  induction as with
  | nil => rw [List.mergeSort_nil, List.filter_nil, List.mergeSort_nil]
  | cons a as ih =>
    obtain ⟨before, after, hlong, hshort, hbefore, hafter⟩ :=
      exists_mergeSort_cons htrans htotal a as
    by_cases hp : p a = true
    · obtain ⟨before', after', hlong', hshort', hbefore', hafter'⟩ :=
        exists_mergeSort_cons htrans htotal a (as.filter p)
      have hsame : before.filter p ++ after.filter p = before' ++ after' := by
        rw [← List.filter_append, ← hshort, ih, hshort']
      -- Whether an entry stands in front of the head is seen from the entry alone.
      obtain ⟨hfront, hback⟩ := eq_and_eq_of_append_eq hsame
        (fun b hb => hbefore b (List.mem_filter.1 hb).1)
        (fun b hb => hafter b (List.mem_filter.1 hb).1) hbefore' hafter'
      rw [List.filter_cons_of_pos hp, hlong, hlong', List.filter_append,
        List.filter_cons_of_pos hp, hfront, hback]
    · rw [List.filter_cons_of_neg hp, hlong, ← ih, hshort, List.filter_append,
        List.filter_cons_of_neg hp, List.filter_append]

/-- Sorted entries are in order, and what holds between the entries of the list from left to right
holds between those that could stand either way round. -/
lemma pairwise_mergeSort_stable {r : α → α → Prop} {as : List α} (h : as.Pairwise r) :
    (as.mergeSort le).Pairwise fun a b => le a b = true ∧ (le b a = true → r a b) := by
  induction as with
  | nil => rw [List.mergeSort_nil]; exact .nil
  | cons a as ih =>
    obtain ⟨hfirst, hrest⟩ := List.pairwise_cons.1 h
    obtain ⟨before, after, hlong, hshort, hbefore, hafter⟩ :=
      exists_mergeSort_cons htrans htotal a as
    have hmem (b : α) (hb : b ∈ before ++ after) : b ∈ as :=
      List.mem_mergeSort.1 (hshort ▸ hb)
    have hothers := ih hrest
    rw [hshort, List.pairwise_append] at hothers
    obtain ⟨hbefore', hafter', hacross⟩ := hothers
    rw [hlong, List.pairwise_append, List.pairwise_cons]
    refine ⟨hbefore', ⟨fun b hb => ⟨hafter b hb, fun _ => ?_⟩, hafter'⟩, fun b hb c hc => ?_⟩
    · exact hfirst b (hmem b (List.mem_append_right before hb))
    · rcases List.mem_cons.1 hc with rfl | hc
      · have hstrict := hbefore b hb
        refine ⟨?_, fun hback => ?_⟩
        · simpa [hstrict] using htotal c b
        · rw [hstrict] at hback
          cases hback
      · exact hacross b hb c hc

end Stable

end Sorting

end IssueDispatch
