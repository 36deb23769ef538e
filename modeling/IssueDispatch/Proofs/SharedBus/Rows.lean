import IssueDispatch.Proofs.Delivery
import IssueDispatch.Proofs.SharedBus.History

/-!
# The rows behind a history

`Store.Tells history` says that the rows of the table of events are what a history says of their
events: a row is the event that was published under its number, it was last delivered when the
history says so, and it is acknowledged exactly if the event is.  Only acknowledged rows are
deleted, so every other event has its row.  Publishing, delivering, acknowledging and purging keep
this up, one lemma each.
-/

namespace IssueDispatch

open BusHistory

variable {visibility now : Binary64} {history : List BusRecord} {r : BusRecord} {n : Nat}

/-! ## Histories -/

namespace BusHistory

/-- A call that neither publishes, delivers nor acknowledges anything. -/
structure IsSilent (r : BusRecord) : Prop where
  published : r.published? = none
  delivered : r.delivered? = none
  acked : r.acked? = none

lemma publications_cons_of_none (h : r.published? = none) :
    publications (r :: history) = publications history :=
  List.filterMap_cons_none h

lemma publications_cons_of_some {p : Nat × Event} (h : r.published? = some p) :
    publications (r :: history) = p :: publications history :=
  List.filterMap_cons_some h

lemma mem_publications_cons {p : Nat × Event} (h : p ∈ publications history) (r : BusRecord) :
    p ∈ publications (r :: history) := by
  obtain ⟨x, hx, hp⟩ := List.mem_filterMap.1 h
  exact List.mem_filterMap.2 ⟨x, List.mem_cons_of_mem r hx, hp⟩

lemma isPublished_cons_of_none (h : r.published? = none) :
    IsPublished n (r :: history) ↔ IsPublished n history := by
  rw [IsPublished, publications_cons_of_none h, IsPublished]

lemma isPublished_cons_of_some {p : Nat × Event} (h : r.published? = some p) :
    IsPublished n (r :: history) ↔ n = p.1 ∨ IsPublished n history := by
  rw [IsPublished, publications_cons_of_some h, IsPublished]
  constructor
  · rintro ⟨e, he⟩
    rcases List.mem_cons.1 he with rfl | he
    · exact Or.inl rfl
    · exact Or.inr ⟨e, he⟩
  · rintro (rfl | ⟨e, he⟩)
    · exact ⟨p.2, List.mem_cons_self⟩
    · exact ⟨e, List.mem_cons_of_mem p he⟩

lemma deliveries_cons_of_none (h : r.delivered? = none) :
    deliveries n (r :: history) = deliveries n history :=
  List.filterMap_cons_none (by simp [h])

lemma deliveries_cons_of_some {row : Nat × Option Value} (h : r.delivered? = some row) :
    deliveries n (r :: history) =
      if row.1 = n then r.clock :: deliveries n history else deliveries n history := by
  rw [deliveries, deliveries]
  split
  · exact List.filterMap_cons_some (by simp [*])
  · exact List.filterMap_cons_none (by simp [*])

lemma isAcked_cons_of_none (h : r.acked? = none) :
    IsAcked n (r :: history) ↔ IsAcked n history := by
  rw [IsAcked, h]
  simp

/-- Only what has been published is acknowledged. -/
lemma IsAcked.isPublished (h : IsAcked n history) : IsPublished n history := by
  induction history with
  | nil => exact h.elim
  | cons r history ih =>
    have hearlier : IsPublished n history := by
      rcases h with ⟨-, hpublished⟩ | h
      · exact hpublished
      · exact ih h
    obtain ⟨e, he⟩ := hearlier
    exact ⟨e, mem_publications_cons he r⟩

end BusHistory

/-! ## Rows and histories -/

namespace Store

variable {s : Store}

/-- The store after an event has been published. -/
def withEvent (s : Store) (e : Event) (now : Binary64) : Store :=
  { s with
    lastEvent := s.lastEvent + 1
    events := s.events ++
      [{ id := s.lastEvent + 1, payload := some e.toValue, publishedAt := now }] }

/-- The store after the row of a number has been delivered. -/
def withDelivered (s : Store) (id : Nat) (now : Binary64) : Store :=
  { s with events := s.events.map fun x =>
      if x.id = id then { x with deliveredAt := some now } else x }

/-- The store after the row of a number has been acknowledged. -/
def withAcked (s : Store) (id : Int) (now : Binary64) : Store :=
  { s with events := s.events.map fun x =>
      if (x.id : Int) = id then { x with ackedAt := some now } else x }

lemma publishEvent_of_has (h : s.Has [.events]) {e : Event} (he : Json.refusal? e.toValue = none)
    (now : Binary64) :
    publishEvent e now s = (.ok (s.lastEvent + 1), s.withEvent e now) := by
  rw [publishEvent, he]
  exact changing_of_has h _

lemma publishEvent_of_refusal {e : Event} {detail : String}
    (he : Json.refusal? e.toValue = some detail) (now : Binary64) (s : Store) :
    publishEvent e now s = (.error (.wrongKind detail), s) := by
  rw [publishEvent, he]
  rfl

lemma deliverNext_of_some (h : s.Has [.events]) {x : StoredEvent}
    (hfind : s.events.find? (·.isDeliverable visibility now) = some x) :
    deliverNext visibility now s = (.ok (some (x.id, x.payload)), s.withDelivered x.id now) := by
  rw [deliverNext, changing_of_has h, hfind]
  rfl

lemma deliverNext_of_none (h : s.Has [.events])
    (hfind : s.events.find? (·.isDeliverable visibility now) = none) :
    deliverNext visibility now s = (.ok none, s) := by
  rw [deliverNext, changing_of_has h, hfind]

lemma ackEvent_of_not_isStorable (h : s.Has [.events]) {id : Int} (hid : ¬ IsStorable id)
    (now : Binary64) :
    ackEvent id now s = (.error (.outOfRange "integer too large for the store"), s) := by
  have htable : Table.events ∉ s.missing := h _ (by simp)
  rw [ackEvent, Run.atomically_error]
  rw [Transaction.bind_of_ok (requireTable_of_notMem htable),
    Transaction.bind_of_error (requireInteger_of_not_isStorable hid)]

/-- A row is what a history says of the event of its number. -/
structure RowTells (history : List BusRecord) (x : StoredEvent) : Prop where
  payload : ∃ e, (x.id, e) ∈ publications history ∧ x.payload = some e.toValue
  delivered : x.deliveredAt = (deliveries x.id history).head?
  acked : x.ackedAt.isSome = true ↔ IsAcked x.id history

/-- The rows of the table of events are what a history says of the published events. -/
structure Tells (history : List BusRecord) (s : Store) : Prop where
  tables : s.Has [.events]
  ids : (s.events.map StoredEvent.id).Pairwise (· < ·)
  rows : ∀ x ∈ s.events, RowTells history x
  /-- Numbers are given out in order, and none is given out again. -/
  numbers : (publications history).Pairwise fun later earlier => earlier.1 < later.1
  bound : ∀ p ∈ publications history, p.1 ≤ s.lastEvent
  unheard : ∀ n, s.lastEvent < n → deliveries n history = []
  /-- No event is deleted before it has been acknowledged. -/
  kept : ∀ n, IsPublished n history → ¬ IsAcked n history → ∃ x ∈ s.events, x.id = n

lemma RowTells.isPublished {x : StoredEvent} (h : RowTells history x) :
    IsPublished x.id history := by
  obtain ⟨e, he, -⟩ := h.payload
  exact ⟨e, he⟩

lemma RowTells.payload_cons {x : StoredEvent} (h : RowTells history x) (r : BusRecord) :
    ∃ e, (x.id, e) ∈ publications (r :: history) ∧ x.payload = some e.toValue := by
  obtain ⟨e, he, hpayload⟩ := h.payload
  exact ⟨e, mem_publications_cons he r, hpayload⟩

/-- A row may be delivered if it is neither acknowledged nor hidden. -/
lemma isDeliverable_iff {x : StoredEvent} : x.isDeliverable visibility now = true ↔
    x.ackedAt = none ∧ ∀ time ∈ x.deliveredAt, time < now - visibility := by
  cases hacked : x.ackedAt <;> cases hdelivered : x.deliveredAt <;>
    simp [StoredEvent.isDeliverable, hacked, hdelivered]

lemma RowTells.ackedAt_eq_none_iff {x : StoredEvent} (h : RowTells history x) :
    x.ackedAt = none ↔ ¬ IsAcked x.id history := by
  rw [← h.acked]
  simp

/-- An event may be delivered exactly if its row may. -/
lemma Tells.isEligible_iff (h : s.Tells history) :
    IsEligible visibility now n history ↔
      ∃ x ∈ s.events, x.id = n ∧ x.isDeliverable visibility now = true := by
  constructor
  · intro heligible
    obtain ⟨x, hx, rfl⟩ := h.kept n heligible.published heligible.unacked
    have hrow := h.rows x hx
    refine ⟨x, hx, rfl, isDeliverable_iff.2 ⟨hrow.ackedAt_eq_none_iff.2 heligible.unacked, ?_⟩⟩
    rw [hrow.delivered]
    exact heligible.past
  · rintro ⟨x, hx, rfl, hdeliverable⟩
    have hrow := h.rows x hx
    obtain ⟨hnone, hpast⟩ := isDeliverable_iff.1 hdeliverable
    rw [hrow.delivered] at hpast
    exact ⟨hrow.isPublished, hrow.ackedAt_eq_none_iff.1 hnone, hpast⟩

/-- Rows that were acknowledged may go. -/
lemma Tells.filter (h : s.Tells history) {keep : StoredEvent → Bool}
    (hkeep : ∀ x ∈ s.events, x.ackedAt = none → keep x = true) :
    ({ s with events := s.events.filter keep } : Store).Tells history where
  tables := h.tables
  ids := h.ids.sublist (List.filter_sublist.map _)
  rows x hx := h.rows x (List.mem_filter.1 hx).1
  numbers := h.numbers
  bound := h.bound
  unheard := h.unheard
  kept n hpublished hunacked := by
    obtain ⟨x, hx, rfl⟩ := h.kept n hpublished hunacked
    have hnone := (h.rows x hx).ackedAt_eq_none_iff.2 hunacked
    exact ⟨x, List.mem_filter.2 ⟨hx, hkeep x hx hnone⟩, rfl⟩

/-- Rows may change where they stand, as the history goes on. -/
lemma Tells.map (h : s.Tells history) {f : StoredEvent → StoredEvent} (hid : ∀ x, (f x).id = x.id)
    (hpublished : r.published? = none)
    (hrows : ∀ x ∈ s.events, RowTells history x → RowTells (r :: history) (f x))
    (hunheard : ∀ n, s.lastEvent < n → deliveries n (r :: history) = deliveries n history) :
    ({ s with events := s.events.map f } : Store).Tells (r :: history) where
  tables := h.tables
  ids := by
    have hids : (s.events.map f).map StoredEvent.id = s.events.map StoredEvent.id := by
      rw [List.map_map]
      exact List.map_congr_left fun x _ => hid x
    rw [hids]
    exact h.ids
  rows y hy := by
    obtain ⟨x, hx, rfl⟩ := List.mem_map.1 hy
    exact hrows x hx (h.rows x hx)
  numbers := by
    rw [publications_cons_of_none hpublished]
    exact h.numbers
  bound := by
    rw [publications_cons_of_none hpublished]
    exact h.bound
  unheard n hn := (hunheard n hn).trans (h.unheard n hn)
  kept n hpublic hunacked := by
    rw [isPublished_cons_of_none hpublished] at hpublic
    obtain ⟨x, hx, rfl⟩ := h.kept n hpublic fun hacked => hunacked (Or.inr hacked)
    exact ⟨f x, List.mem_map_of_mem hx, hid x⟩

/-- A call that says nothing leaves the rows as they are. -/
lemma Tells.of_isSilent (h : s.Tells history) (hr : IsSilent r) : s.Tells (r :: history) := by
  have hsame := h.map (f := id) (fun _ => rfl) hr.published
    (fun x _ hx => {
      payload := hx.payload_cons r
      delivered := by
        rw [deliveries_cons_of_none hr.delivered]
        exact hx.delivered
      acked := by
        rw [isAcked_cons_of_none hr.acked]
        exact hx.acked })
    fun _ _ => deliveries_cons_of_none hr.delivered
  rwa [List.map_id] at hsame

/-- A published event gets the next number and a row at the end. -/
lemma Tells.of_published (h : s.Tells history) {e : Event} (now : Binary64)
    (hpublished : r.published? = some (s.lastEvent + 1, e)) (hdelivered : r.delivered? = none)
    (hacked : r.acked? = none) :
    (s.withEvent e now).Tells (r :: history) where
  tables := h.tables
  ids := by
    rw [withEvent, List.map_append, List.pairwise_append]
    refine ⟨h.ids, List.pairwise_singleton _ _, ?_⟩
    intro a ha b hb
    obtain ⟨x, hx, rfl⟩ := List.mem_map.1 ha
    obtain rfl := List.mem_singleton.1 hb
    obtain ⟨e, he, -⟩ := (h.rows x hx).payload
    exact Nat.lt_succ_of_le (h.bound _ he)
  rows x hx := by
    rcases List.mem_append.1 hx with hx | hx
    · refine ⟨(h.rows x hx).payload_cons r, ?_, ?_⟩
      · rw [deliveries_cons_of_none hdelivered]
        exact (h.rows x hx).delivered
      · rw [isAcked_cons_of_none hacked]
        exact (h.rows x hx).acked
    · obtain rfl := List.mem_singleton.1 hx
      refine ⟨⟨e, ?_, rfl⟩, ?_, ?_⟩
      · rw [publications_cons_of_some hpublished]
        exact List.mem_cons_self
      · rw [deliveries_cons_of_none hdelivered, h.unheard _ (Nat.lt_succ_self _)]
        rfl
      · rw [isAcked_cons_of_none hacked]
        constructor
        · intro hnone
          cases hnone
        · intro hack
          obtain ⟨e', he'⟩ := hack.isPublished
          exact absurd (h.bound _ he') (Nat.not_succ_le_self _)
  numbers := by
    rw [publications_cons_of_some hpublished, List.pairwise_cons]
    exact ⟨fun p hp => Nat.lt_succ_of_le (h.bound p hp), h.numbers⟩
  bound := by
    rw [publications_cons_of_some hpublished]
    exact List.forall_mem_cons.2 ⟨Nat.le_refl _, fun p hp => Nat.le_succ_of_le (h.bound p hp)⟩
  unheard n hn := by
    rw [deliveries_cons_of_none hdelivered]
    exact h.unheard n (Nat.lt_of_succ_lt hn)
  kept n hpublic hunacked := by
    rw [isAcked_cons_of_none hacked] at hunacked
    rcases (isPublished_cons_of_some hpublished).1 hpublic with rfl | hpublic
    · exact ⟨_, List.mem_append_right _ List.mem_cons_self, rfl⟩
    · obtain ⟨x, hx, hid⟩ := h.kept n hpublic hunacked
      exact ⟨x, List.mem_append_left _ hx, hid⟩

/-- A delivered row remembers when it was delivered. -/
lemma Tells.of_delivered (h : s.Tells history) (row : Nat × Option Value)
    (hrow : row.1 ≤ s.lastEvent) (hpublished : r.published? = none)
    (hdelivered : r.delivered? = some row) (hacked : r.acked? = none) :
    (s.withDelivered row.1 r.clock).Tells (r :: history) := by
  refine h.map (fun x => ?_) hpublished (fun x _ hx => ?_) fun n hn => ?_
  · split <;> rfl
  · have hack : x.ackedAt.isSome = true ↔ IsAcked x.id (r :: history) := by
      rw [isAcked_cons_of_none hacked]
      exact hx.acked
    by_cases hid : x.id = row.1
    · rw [if_pos hid]
      refine ⟨hx.payload_cons r, ?_, hack⟩
      rw [deliveries_cons_of_some hdelivered, if_pos hid.symm]
      rfl
    · rw [if_neg hid]
      refine ⟨hx.payload_cons r, ?_, hack⟩
      rw [deliveries_cons_of_some hdelivered, if_neg (Ne.symm hid)]
      exact hx.delivered
  · rw [deliveries_cons_of_some hdelivered, if_neg (fun hid => ?_)]
    rw [hid] at hrow
    exact absurd hn (Nat.not_lt.2 hrow)

/-- An acknowledged row remembers that it was acknowledged. -/
lemma Tells.of_acked (h : s.Tells history) {id : Int} (now : Binary64)
    (hpublished : r.published? = none) (hdelivered : r.delivered? = none)
    (hacked : r.acked? = some id) :
    (s.withAcked id now).Tells (r :: history) := by
  refine h.map (fun x => ?_) hpublished (fun x _ hx => ?_) fun n _ => ?_
  · split <;> rfl
  · have htime : x.deliveredAt = (deliveries x.id (r :: history)).head? := by
      rw [deliveries_cons_of_none hdelivered]
      exact hx.delivered
    by_cases hid : (x.id : Int) = id
    · rw [if_pos hid]
      refine ⟨hx.payload_cons r, htime, ?_⟩
      have hnow : IsAcked x.id (r :: history) := Or.inl ⟨by rw [hacked, hid], hx.isPublished⟩
      simp [hnow]
    · rw [if_neg hid]
      refine ⟨hx.payload_cons r, htime, hx.acked.trans ⟨Or.inr, ?_⟩⟩
      rintro (⟨hsame, -⟩ | hack)
      · rw [hacked] at hsame
        exact absurd (Option.some.inj hsame).symm hid
      · exact hack
  · exact deliveries_cons_of_none hdelivered

end Store

end IssueDispatch
