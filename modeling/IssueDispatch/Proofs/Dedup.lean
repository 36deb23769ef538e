import IssueDispatch.Dedup
import IssueDispatch.Proofs.Number.Rounding
import IssueDispatch.Proofs.Store.Transactions
import Mathlib.Data.List.Nodup

/-!
# What a deduplicator remembers

A deduplicator keeps the time of one report for each key.  A report is hidden if the report that is
kept for its key is less than a window ago; otherwise it is kept itself.  Reports that are old
enough are forgotten on the way, but only such as are outside the window, so forgetting never makes
a difference to what is hidden.  `Dedup.Noting` says so for the deduplicator in the process and for
the one in the store at once.
-/

namespace IssueDispatch

variable {ω : Type}

namespace Dedup

/-- The reports that are remembered. -/
def memory (d : Dedup) (w : World ω) : List Sighting :=
  match d with
  | inProcess _ => w.sightings
  | stored _ => w.store.sightings

/-- Whether a report that is remembered for a key is less than a window ago. -/
def Hides (m : List Sighting) (window : Binary64) (key : String) (now : Binary64) : Prop :=
  ∃ x ∈ m, x.key = key ∧ now - x.seenAt < window

/-- A memory in which every key stands once, with a time that is finite. -/
structure IsSound (m : List Sighting) : Prop where
  keys : (m.map Sighting.key).Nodup
  times : ∀ x ∈ m, x.seenAt.isFinite = true

/-- What asking for a key at some time does to the memory, with the answer. -/
inductive Noting (window : Binary64) (key : String) (now : Binary64) (m : List Sighting) :
    Bool → List Sighting → Prop
  | hidden {m' : List Sighting} (hides : Hides m window key now) (sub : m'.Sublist m)
      (forgotten : ∀ x ∈ m, x ∈ m' ∨ window ≤ now - x.seenAt) : Noting window key now m true m'
  | noted {m' : List Sighting} (free : ¬ Hides m window key now) (mem : ⟨key, now⟩ ∈ m')
      (sound : IsSound m') (sub : ∀ x ∈ m', x = ⟨key, now⟩ ∨ x ∈ m)
      (forgotten : ∀ x ∈ m, x.key = key ∨ x ∈ m' ∨ window ≤ now - x.seenAt) :
      Noting window key now m false m'

variable {m : List Sighting} {window usual now : Binary64} {key : String}

namespace IsSound

lemma nil : IsSound [] := ⟨List.nodup_nil, fun _ hx => nomatch hx⟩

lemma sublist {m' : List Sighting} (h : IsSound m) (hsub : m'.Sublist m) : IsSound m' where
  keys := h.keys.sublist (hsub.map Sighting.key)
  times x hx := h.times x (hsub.subset hx)

/-- The report that is found for a key is the only one. -/
lemma find?_eq_some (h : IsSound m) {x : Sighting} (hx : x ∈ m) :
    m.find? (fun y => y.key == x.key) = some x := by
  rcases hfind : m.find? (fun y => y.key == x.key) with - | y
  · exact absurd (beq_self_eq_true x.key) (List.find?_eq_none.1 hfind x hx)
  · have hkey : y.key = x.key := by simpa using List.find?_some hfind
    rw [← List.inj_on_of_nodup_map h.keys (List.mem_of_find?_eq_some hfind) hx hkey, hkey, hfind]

/-- A key is hidden if the report that is found for it is less than a window ago. -/
lemma hides_iff (h : IsSound m) :
    Hides m window key now ↔
      ∃ x, m.find? (fun y => y.key == key) = some x ∧ now - x.seenAt < window := by
  constructor
  · rintro ⟨x, hx, rfl, hlate⟩
    exact ⟨x, h.find?_eq_some hx, hlate⟩
  · rintro ⟨x, hx, hlate⟩
    exact ⟨x, List.mem_of_find?_eq_some hx, by simpa using List.find?_some hx, hlate⟩

end IsSound

/-- A new report of a key that is remembered for no other time leaves the memory sound. -/
lemma IsSound.concat (h : IsSound m) (hnow : now.isFinite = true) (hnew : ∀ x ∈ m, x.key ≠ key) :
    IsSound (m ++ [⟨key, now⟩]) where
  keys := by
    rw [List.map_append, List.nodup_append]
    refine ⟨h.keys, List.nodup_singleton key, ?_⟩
    intro other hother last hlast heq
    obtain ⟨x, hx, rfl⟩ := List.mem_map.1 hother
    exact hnew x hx (heq.trans (List.mem_singleton.1 hlast))
  times x hx := by
    rcases List.mem_append.1 hx with hx | hx
    · exact h.times x hx
    · rw [List.mem_singleton.1 hx]
      exact hnow

/-- The memory with another time for a key. -/
def restamp (key : String) (now : Binary64) (m : List Sighting) : List Sighting :=
  m.map fun x => if x.key == key then { x with seenAt := now } else x

/-- The memory with another time for a key holds that time and what it held of other keys. -/
lemma mem_restamp {x : Sighting} (hx : x ∈ restamp key now m) : x = ⟨key, now⟩ ∨ x ∈ m := by
  obtain ⟨y, hy, rfl⟩ := List.mem_map.1 hx
  split
  · rename_i hkey
    exact Or.inl (by rw [beq_iff_eq.1 hkey])
  · exact Or.inr hy

lemma IsSound.restamp (h : IsSound m) (hnow : now.isFinite = true) (key : String) :
    IsSound (restamp key now m) where
  keys := by
    have hkeys : (Dedup.restamp key now m).map Sighting.key = m.map Sighting.key := by
      rw [Dedup.restamp, List.map_map]
      refine List.map_congr_left fun x _ => ?_
      dsimp only [Function.comp]
      split <;> rfl
    rw [hkeys]
    exact h.keys
  times x hx := by
    rcases mem_restamp hx with rfl | hx
    · exact hnow
    · exact h.times x hx

/-- The deduplicator in the process notes a report or says that it is hidden. -/
lemma seenHere_noting (h : IsSound m) (hpos : 0 < window) (hnow : now.isFinite = true)
    (usual : Binary64) (key : String) :
    Noting window key now m (seenHere key window usual now m).1
      (seenHere key window usual now m).2 := by
  have hsub : (recent now (max window usual) m).Sublist m := List.filter_sublist
  have hsound := h.sublist hsub
  have hforgotten : ∀ x ∈ m, x ∈ recent now (max window usual) m ∨ window ≤ now - x.seenAt := by
    intro x hx
    have hwindow : window ≤ max window usual := Binary64.le_max (Binary64.le_self_of_lt hpos) usual
    cases hold : (max window usual).le (now - x.seenAt) with
    | true => exact Or.inr (Binary64.le_trans hwindow hold)
    | false => exact Or.inl (List.mem_filter.2 ⟨hx, by rw [hold]; rfl⟩)
  have hhides : Hides m window key now →
      Hides (recent now (max window usual) m) window key now := by
    rintro ⟨x, hx, hkey, hlate⟩
    refine ⟨x, (hforgotten x hx).resolve_right fun hold => ?_, hkey, hlate⟩
    exact Binary64.not_lt_of_le hold hlate
  rw [seenHere]
  generalize recent now (max window usual) m = m₁ at *
  rcases hfind : m₁.find? fun x => x.key == key with - | x
  · have hnew : ∀ x ∈ m₁, x.key ≠ key := by simpa using hfind
    rw [hfind]
    refine .noted (fun hm => ?_) (by simp) (hsound.concat hnow hnew) (fun y hy => ?_)
      fun y hy => ?_
    · obtain ⟨x, hx, -⟩ := hsound.hides_iff.1 (hhides hm)
      rw [hfind] at hx
      cases hx
    · rcases List.mem_append.1 hy with hy | hy
      · exact Or.inr (hsub.subset hy)
      · exact Or.inl (List.mem_singleton.1 hy)
    · exact Or.inr ((hforgotten y hy).imp_left fun hkept => List.mem_append_left _ hkept)
  · have hx : x ∈ m₁ := List.mem_of_find?_eq_some hfind
    have hkey : x.key = key := by simpa using List.find?_some hfind
    rw [hfind]
    dsimp only
    by_cases hlate : now - x.seenAt < window
    · rw [if_pos hlate]
      exact .hidden ⟨x, hsub.subset hx, hkey, hlate⟩ hsub hforgotten
    · rw [if_neg hlate]
      refine .noted (fun hm => ?_) (List.mem_map.2 ⟨x, hx, ?_⟩) (hsound.restamp hnow key)
        (fun y hy => (mem_restamp hy).imp_right fun hy => hsub.subset hy) fun y hy => ?_
      · obtain ⟨y, hy, hlate'⟩ := hsound.hides_iff.1 (hhides hm)
        rw [hfind] at hy
        obtain rfl := Option.some.inj hy
        exact hlate hlate'
      · rw [if_pos (beq_iff_eq.2 hkey), hkey]
      · by_cases hykey : y.key = key
        · exact Or.inl hykey
        · refine Or.inr ((hforgotten y hy).imp_left fun hkept => List.mem_map.2 ⟨y, hkept, ?_⟩)
          rw [if_neg (by simpa using hykey)]

/-- The memory of the store once it has noted a report. -/
def stamped (window : Binary64) (key : String) (now : Binary64) (m : List Sighting) :
    List Sighting :=
  ((m.filter fun x => x.key != key) ++ [Sighting.mk key now]).filter fun x =>
    !decide (x.seenAt < now - max window Store.leastMemory)

/-- The store forgets nothing that is inside the window when it notes a report. -/
lemma stamped_noting (h : IsSound m) (hpos : 0 < window) (hnow : now.isFinite = true)
    (hfree : ¬ Hides m window key now) :
    Noting window key now m false (stamped window key now m) := by
  have hothers : (m.filter fun x => x.key != key).Sublist m := List.filter_sublist
  have hold {x : Sighting} (hx : x.seenAt.isFinite = true)
      (hlate : x.seenAt < now - max window Store.leastMemory) : window ≤ now - x.seenAt :=
    Binary64.le_trans (Binary64.le_max (Binary64.le_self_of_lt hpos) _)
      (Binary64.le_sub_of_lt_sub hx hnow hlate)
  refine .noted hfree (List.mem_filter.2 ⟨by simp, ?_⟩)
    (((h.sublist hothers).concat hnow fun x hx => ?_).sublist List.filter_sublist)
    (fun x hx => ?_) fun x hx => ?_
  · -- No time has passed since the report, and the memory reaches back for a while.
    have hpast : ¬ now < now - max window Store.leastMemory := by
      intro hlate
      exact Binary64.not_lt_of_le (hold (x := ⟨key, now⟩) hnow hlate)
        (Binary64.sub_self_lt hnow hpos)
    simpa using hpast
  · simpa using (List.mem_filter.1 hx).2
  · rcases List.mem_append.1 (List.mem_filter.1 hx).1 with hx | hx
    · exact Or.inr (hothers.subset hx)
    · exact Or.inl (List.mem_singleton.1 hx)
  · by_cases hkey : x.key = key
    · exact Or.inl hkey
    · by_cases hlate : x.seenAt < now - max window Store.leastMemory
      · exact Or.inr (Or.inr (hold (h.times x hx) hlate))
      · exact Or.inr (Or.inl (List.mem_filter.2 ⟨by simp [hx, hkey], by simpa using hlate⟩))

/-- The store notes a report or says that it is hidden. -/
lemma storeSeen_noting {s : Store} (h : IsSound s.sightings) (hpos : 0 < window)
    (hnow : now.isFinite = true) (key : String) (hs : s.Has [.eventDedup]) :
    ∃ r m', Store.seen key window now s = (.ok r, { s with sightings := m' }) ∧
      Noting window key now s.sightings r m' := by
  rw [Store.seen, Store.changing_of_has hs]
  rcases hfind : s.sightings.find? fun x => x.key == key with - | x
  · rw [hfind]
    refine ⟨false, stamped window key now s.sightings, rfl, stamped_noting h hpos hnow ?_⟩
    intro hhides
    obtain ⟨x, hx, -⟩ := h.hides_iff.1 hhides
    rw [hfind] at hx
    cases hx
  · rw [hfind]
    dsimp only
    by_cases hlate : now - x.seenAt < window
    · rw [decide_eq_true hlate]
      exact ⟨true, s.sightings, rfl, .hidden (h.hides_iff.2 ⟨x, hfind, hlate⟩)
        (List.Sublist.refl _) fun _ => Or.inl⟩
    · rw [decide_eq_false hlate]
      refine ⟨false, stamped window key now s.sightings, rfl, stamped_noting h hpos hnow ?_⟩
      intro hhides
      obtain ⟨y, hy, hlate'⟩ := h.hides_iff.1 hhides
      rw [hfind] at hy
      obtain rfl := Option.some.inj hy
      exact hlate hlate'

/-- Asking for a key notes a report or says that it is hidden, or it fails and changes nothing. -/
lemma seen_cases (d : Dedup) {w : World ω} (h : IsSound (d.memory w)) (hpos : 0 < window)
    (hnow : w.clock.isFinite = true) (key : String) :
    (∃ r w', d.seen key (some window) w = (.ok r, w') ∧ w'.clock = w.clock ∧
        Noting window key w.clock (d.memory w) r (d.memory w')) ∨
      ∃ e, d.seen key (some window) w = (.error e, w) := by
  cases d with
  | inProcess usual => exact Or.inl ⟨_, _, rfl, rfl, seenHere_noting h hpos hnow usual key⟩
  | stored usual =>
    by_cases hs : w.store.Has [.eventDedup]
    · obtain ⟨r, m', hseen, hnoting⟩ := storeSeen_noting h hpos hnow key hs
      exact Or.inl ⟨r, _, World.onStoreNow_of_eq (x := Store.seen key window) hseen, rfl, hnoting⟩
    · obtain ⟨e, he⟩ : ∃ e, Store.seen key window w.clock w.store = (.error e, w.store) :=
        Store.changing_of_not_has hs _
      exact Or.inr ⟨e, World.onStoreNow_of_eq (x := Store.seen key window) he⟩

end Dedup

end IssueDispatch
