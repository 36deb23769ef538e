import IssueDispatch.Governor.Scan
import IssueDispatch.Proofs.Governor.Climbing
import IssueDispatch.Proofs.Governor.Progress
import Mathlib.Tactic.Choose

/-!
# Touchpoints that have timed out

Proceeding with touchpoints reads the clock and works on the store, and nothing else matters for it.
So it comes to the same in every world with the same clock and the same store.  As long as the clock
stands still there is nothing left to proceed with afterwards: whatever has timed out is marked, but
for alerts, which have no default action.
-/

namespace IssueDispatch

variable {ω α β : Type}

/-! ## Computations on the clock and the store -/

/-- A computation that reads the clock, works on the store, and does nothing else. -/
def World.IsOnStore (x : Run (World ω) α) : Prop := ∃ y, x = onStoreNow y

namespace World.IsOnStore

lemma pure (a : α) : World.IsOnStore (pure a : Run (World ω) α) := ⟨fun _ => Pure.pure a, rfl⟩

lemma now : World.IsOnStore (World.now : Run (World ω) Binary64) := ⟨fun now => Pure.pure now, rfl⟩

lemma onStore (x : Run Store α) : World.IsOnStore (World.onStore x : Run (World ω) α) :=
  ⟨fun _ => x, rfl⟩

lemma onStoreNow (x : Binary64 → Run Store α) :
    World.IsOnStore (World.onStoreNow x : Run (World ω) α) :=
  ⟨x, rfl⟩

lemma bind {x : Run (World ω) α} {f : α → Run (World ω) β} (hx : World.IsOnStore x)
    (hf : ∀ a, World.IsOnStore (f a)) : World.IsOnStore (x >>= f) := by
  obtain ⟨y, rfl⟩ := hx
  choose z hz using hf
  refine ⟨fun now => y now >>= fun a => z a now, funext fun w => ?_⟩
  rw [World.onStoreNow_apply, Run.bind_apply, Run.bind_apply, World.onStoreNow_apply]
  rcases y w.clock w.store with ⟨e | a, s⟩
  · rfl
  · dsimp only
    rw [hz]
    rfl

lemma ite {c : Prop} [Decidable c] {x y : Run (World ω) α} (hx : World.IsOnStore x)
    (hy : World.IsOnStore y) : World.IsOnStore (if c then x else y) := by
  split
  · exact hx
  · exact hy

end World.IsOnStore

namespace Escalation

lemma proceed_isOnStore (ns : List Notification) (now : Binary64) :
    World.IsOnStore (proceed ns now : Run (World ω) _) := by
  induction ns with
  | nil => exact .pure []
  | cons n rest ih =>
    rw [proceed]
    split
    · exact ih
    · have hgoesOn (action : DefaultAction) :
          World.IsOnStore (proceed rest now >>= fun ns => pure ((n, action) :: ns) :
            Run (World ω) _) := ih.bind fun _ => .pure _
      exact (World.IsOnStore.onStore _).bind fun _ =>
        .ite ((World.IsOnStore.onStoreNow _).bind fun _ => hgoesOn _) (hgoesOn _)

/-- Proceeding with what has timed out depends on the clock and the store alone. -/
lemma processTimeouts_isOnStore (e : Escalation ω) (now? : Option Binary64) :
    World.IsOnStore (e.processTimeouts now?) :=
  World.IsOnStore.now.bind fun now =>
    (World.IsOnStore.onStore _).bind fun _ => proceed_isOnStore _ (now?.getD now)

end Escalation

/-! ## What is left -/

namespace Store

variable {s : Store}

lemma mem_overdue_iff {now : Binary64} {n : Notification} :
    n ∈ s.overdue now ↔ ∃ t ∈ s.touchpoints, t.isOpen = true ∧ t.toNotification = n ∧
      n.hasTimedOut now = true := by
  simp only [overdue, openTouchpoints, List.mem_filter, List.mem_map, List.mem_mergeSort,
    Bool.and_true]
  constructor
  · rintro ⟨⟨t, ⟨ht, hopen⟩, hn⟩, hover⟩
    exact ⟨t, ht, hopen, hn, hover⟩
  · rintro ⟨t, ht, hopen, hn, hover⟩
    exact ⟨⟨t, ⟨ht, hopen⟩, hn⟩, hover⟩

/-- Nothing that has timed out can be proceeded with. -/
def HasProceeded (s : Store) (now : Binary64) : Prop :=
  ∀ n ∈ s.overdue now, n.kind.defaultAction? = none

lemma markAutoProceeded_of_has {id : Int} {time : Binary64} (h : s.Has [.touchpoints])
    (hid : IsStorable id) :
    markAutoProceeded id time s = (.ok (), { s with
      touchpoints := s.touchpoints.map fun t =>
        if (t.id : Int) = id then { t with autoProceededAt := kept time } else t }) := by
  rw [markAutoProceeded, Run.atomically_ok]
  rw [Transaction.bind_of_ok (requireTable_of_notMem (h _ (by simp))),
    Transaction.bind_of_ok (requireInteger_of_isStorable hid)]
  rfl

end Store

namespace Escalation

variable {w : World ω} {now : Binary64}

/-- A touchpoint that is open after another one has been marked is not that one. -/
lemma of_isOpen_marked {ts : List Touchpoint} {id : Int} (hnow : now.isNaN = false)
    {t : Touchpoint} (ht : t ∈ ts.map fun t =>
      if (t.id : Int) = id then { t with autoProceededAt := Store.kept now } else t)
    (hopen : t.isOpen = true) : t ∈ ts ∧ id ≠ t.id := by
  obtain ⟨t₀, ht₀, rfl⟩ := List.mem_map.1 ht
  by_cases hid : (t₀.id : Int) = id
  · rw [if_pos hid] at hopen
    simp [Touchpoint.isOpen, Store.kept, hnow] at hopen
  · rw [if_neg hid]
    exact ⟨ht₀, fun h => hid h.symm⟩

/-- What has no default action is passed over. -/
lemma proceed_of_none {ns : List Notification} (h : ∀ n ∈ ns, n.kind.defaultAction? = none) :
    proceed ns now w = (.ok [], w) := by
  induction ns with
  | nil => rfl
  | cons n rest ih =>
    obtain ⟨hn, hrest⟩ := List.forall_mem_cons.1 h
    rw [proceed, hn]
    exact ih hrest

/-- A touchpoint that is open after some have been proceeded with was open before and has not been
one of them. -/
lemma isOpen_of_proceed {ns : List Notification} (hmissing : w.store.missing = [])
    (hnow : now.isNaN = false) (hns : ∀ n ∈ ns, Store.IsStorable (n.id.getD 0)) :
    ∃ proceeded w', proceed ns now w = (.ok proceeded, w') ∧
      ∀ t ∈ w'.store.touchpoints, t.isOpen = true → t ∈ w.store.touchpoints ∧
        ∀ n ∈ ns, n.kind.defaultAction?.isSome = true → n.id.getD 0 ≠ t.id := by
  induction ns generalizing w with
  | nil => exact ⟨[], w, rfl, fun t ht _ => ⟨ht, fun n hn => absurd hn List.not_mem_nil⟩⟩
  | cons n rest ih =>
    obtain ⟨hn, hrest⟩ := List.forall_mem_cons.1 hns
    rw [proceed]
    cases haction : n.kind.defaultAction? with
    | none =>
      obtain ⟨proceeded, w', hproceed, hopen⟩ := ih hmissing hrest
      refine ⟨proceeded, w', hproceed, fun t ht htopen => ?_⟩
      obtain ⟨hmem, hother⟩ := hopen t ht htopen
      refine ⟨hmem, List.forall_mem_cons.2 ⟨fun hsome => ?_, hother⟩⟩
      rw [haction] at hsome
      cases hsome
    | some action =>
      let marked : Store := { w.store with
        touchpoints := w.store.touchpoints.map fun t =>
          if (t.id : Int) = n.id.getD 0 then { t with autoProceededAt := Store.kept now } else t }
      have hmark : World.onStore (Store.markAutoProceeded (n.id.getD 0) now) w =
          (.ok (), { w with store := marked }) :=
        World.onStore_of_eq (Store.markAutoProceeded_of_has (Store.has_of_missing hmissing _) hn)
      have hthere : marked.Has [.workflowState] := Store.has_of_missing hmissing _
      obtain ⟨x, y, hset⟩ : ∃ x y, World.onStoreNow (Store.setStrategy n.issueId .decompose)
          { w with store := marked } = (.ok x, { w with store := marked.withWorkflow y }) :=
        ⟨_, _, World.onStoreNow_of_eq (Store.changeWorkflow_of_has hthere n.issueId _ w.clock)⟩
      have hgoesOn (v : World ω) (hv : v.store.missing = [])
          (hmarked : v.store.touchpoints = marked.touchpoints) :
          ∃ proceeded w', (proceed rest now >>= fun ns => pure ((n, action) :: ns)) v =
            (.ok proceeded, w') ∧
            ∀ t ∈ w'.store.touchpoints, t.isOpen = true → t ∈ w.store.touchpoints ∧
              ∀ m ∈ n :: rest, m.kind.defaultAction?.isSome = true → m.id.getD 0 ≠ t.id := by
        obtain ⟨proceeded, w', hproceed, hopen⟩ := ih hv hrest
        refine ⟨_, w', Run.bind_of_ok hproceed, fun t ht htopen => ?_⟩
        obtain ⟨hmem, hother⟩ := hopen t ht htopen
        rw [hmarked] at hmem
        obtain ⟨hmem, hid⟩ := of_isOpen_marked hnow hmem htopen
        exact ⟨hmem, List.forall_mem_cons.2 ⟨fun _ => hid, hother⟩⟩
      dsimp only
      rw [Run.bind_of_ok hmark]
      split
      · rw [Run.bind_of_ok hset]
        exact hgoesOn _ hmissing rfl
      · exact hgoesOn _ hmissing rfl

/-- After what has timed out has been proceeded with, nothing is left. -/
lemma hasProceeded_of_processTimeouts (e : Escalation ω) (hmissing : w.store.missing = [])
    (hclock : w.clock.isNaN = false) (hids : ∀ t ∈ w.store.touchpoints, Store.IsStorable t.id) :
    (e.processTimeouts none w).2.store.HasProceeded w.clock := by
  have hns : ∀ n ∈ w.store.overdue w.clock, Store.IsStorable (n.id.getD 0) := by
    intro n hn
    obtain ⟨t, ht, -, rfl, -⟩ := Store.mem_overdue_iff.1 hn
    exact hids t ht
  obtain ⟨proceeded, w', hproceed, hopen⟩ := isOpen_of_proceed hmissing hclock hns
  rw [e.processTimeouts_of_has (Store.has_of_missing hmissing _), Option.getD_none, hproceed]
  intro n hn
  obtain ⟨t, ht, htopen, rfl, hover⟩ := Store.mem_overdue_iff.1 hn
  obtain ⟨hmem, hother⟩ := hopen t ht htopen
  by_contra haction
  refine hother t.toNotification ?_ (Option.isSome_iff_ne_none.2 haction) rfl
  exact Store.mem_overdue_iff.2 ⟨t, hmem, htopen, rfl, hover⟩

/-- Where nothing is left to proceed with, nothing happens. -/
lemma processTimeouts_of_hasProceeded (e : Escalation ω) (hmissing : w.store.missing = [])
    (h : w.store.HasProceeded w.clock) : e.processTimeouts none w = (.ok [], w) := by
  rw [e.processTimeouts_of_has (Store.has_of_missing hmissing _)]
  exact proceed_of_none h

end Escalation

end IssueDispatch
