import IssueDispatch.Proofs.Governor.Timeouts
import IssueDispatch.Proofs.Standard
import IssueDispatch.Proofs.Store.Lifecycle

/-!
# What becomes of touchpoints in a run

Touchpoints are posted by failed cycles; they are closed by directives and by proceeding with those
that nobody answered in time.  `Upkeep` is one of these operations.  A run of them may be over any
issues and by any managers, and each operation has a clock reading of its own, which need not be
later than the one before.

Proceeding with touchpoints is exact, `World.ProceedsExactly`: it gives what is due and nothing
else, and leaves nothing for any earlier time.  So in a run no touchpoint is ever proceeded with
twice.
-/

namespace IssueDispatch

variable {ω α : Type}

/-! ## What leaves touchpoints alone -/

/-- Nothing about touchpoints has changed. -/
def World.SameTouchpoints (w w' : World ω) : Prop := w.store.SameTouchpoints w'.store

/-- Touchpoints that were in order have gone on in order. -/
def World.CarriesOn (w w' : World ω) : Prop := w.store.CarriesOn w'.store

instance : IsPreorder (World ω) World.SameTouchpoints where
  refl w := refl w.store
  trans _ _ _ h h' := trans_of Store.SameTouchpoints h h'

instance : IsPreorder (World ω) World.CarriesOn where
  refl w := refl w.store
  trans _ _ _ h h' := trans_of Store.CarriesOn h h'

lemma World.SameTouchpoints.carriesOn {w w' : World ω} (h : w.SameTouchpoints w') :
    w.CarriesOn w' := .of_same h

lemma World.SameTouchpoints.of_onlyOverrides {w w' : World ω} (h : w.OnlyOverrides w') :
    w.SameTouchpoints w' := by
  refine ⟨?_, ?_, ?_⟩ <;> rw [h.store]

lemma World.onStore_carriesOn {x : Run Store α} (hx : x.Keeps Store.CarriesOn) :
    (onStore x : Run (World ω) α).Keeps CarriesOn := fun w => hx w.store

lemma World.onStore_sameTouchpoints {x : Run Store α} (hx : x.Keeps Store.SameTouchpoints) :
    (onStore x : Run (World ω) α).Keeps SameTouchpoints := fun w => hx w.store

lemma Store.changeWorkflow_sameTouchpoints (issueId : String)
    (f : WorkflowState → WorkflowState) (now : Binary64) :
    (changeWorkflow issueId f now).Keeps SameTouchpoints :=
  (reading_keeps _ _).bind fun _ => changing_keeps _ fun _ => ⟨rfl, rfl, rfl⟩

/-- A manager whose comments leave the stored touchpoints alone. -/
def Escalation.IsDiscreet (e : Escalation ω) : Prop :=
  ∀ post ∈ e.postComment, ∀ issueId body, (post issueId body).Keeps World.SameTouchpoints

namespace Escalation

variable {e : Escalation ω}

/-! ## Posting and answering -/

/-- After a failed cycle the touchpoints are in order, with one more or not. -/
lemma recordFailure_carriesOn (he : e.IsDiscreet) (issueId identifier : String)
    (summary : Option String) (cost : Option Binary64) :
    (e.recordFailure issueId identifier summary cost).Keeps World.CarriesOn := by
  have hchange (f : WorkflowState → WorkflowState) (now : Binary64) :
      (World.onStore (Store.changeWorkflow issueId f now) : Run (World ω) _).Keeps
        World.CarriesOn :=
    (World.onStore_sameTouchpoints (Store.changeWorkflow_sameTouchpoints issueId f now)).mono
      fun _ _ h => h.carriesOn
  refine e.recordFailure_keeps (fun now => ?_) (fun summary now => hchange _ now)
    (fun now => hchange _ now) (fun now => ?_) (fun n => ?_) (fun post hpost body => ?_) identifier
    summary cost
  · exact World.onStore_carriesOn (((Store.changeWorkflow_sameTouchpoints issueId _ now).mono
      fun _ _ => .of_same).bind fun _ => .pure ())
  · exact (e.shelf.set_keeps issueId _ none).mono fun _ _ h =>
      (World.SameTouchpoints.of_onlyOverrides h).carriesOn
  · exact World.onStore_carriesOn (Store.saveTouchpoint_carriesOn issueId n)
  · exact (he post hpost issueId body).mono fun _ _ h => h.carriesOn

/-- A directive closes touchpoints. -/
lemma apply_carriesOn (e : Escalation ω) (issueId : String) (d : Directive) :
    (e.apply issueId d).Keeps World.CarriesOn := by
  have hanswer : (World.onStoreNow (Store.markResponded issueId) : Run (World ω) _).Keeps
      World.CarriesOn := fun w => Store.markResponded_carriesOn issueId w.clock w.store
  have hadapt : (adapt issueId d : Run (World ω) _).Keeps World.SameTouchpoints := by
    refine adapt_keeps (fun _ => ?_) fun _ w => ?_
    · exact World.onStore_sameTouchpoints (Store.changing_keeps _ fun _ => ⟨rfl, rfl, rfl⟩)
    · exact Store.changeWorkflow_sameTouchpoints issueId
        (fun x => { x with strategy := .decompose }) w.clock w.store
  rw [apply_eq]
  refine hanswer.bind fun _ => Run.Keeps.bind ?_ fun _ => hadapt.mono fun _ _ h => h.carriesOn
  exact (e.enforce_keeps issueId d).mono fun _ _ h =>
    (World.SameTouchpoints.of_onlyOverrides h).carriesOn

/-- A failed cycle uses up one number of a touchpoint at most. -/
lemma lastTouchpoint_recordFailure_le (he : e.IsDiscreet) (issueId identifier : String)
    (summary : Option String) (cost : Option Binary64) (w : World ω) :
    (e.recordFailure issueId identifier summary cost w).2.store.lastTouchpoint ≤
      w.store.lastTouchpoint + 1 := by
  let PostsOne (w w' : World ω) : Prop :=
    w'.store.lastTouchpoint ≤ w.store.lastTouchpoint + 1
  have hsame {w w' : World ω} (h : w.SameTouchpoints w') : PostsOne w w' :=
    Nat.le_succ_of_le (Nat.le_of_eq h.lastTouchpoint)
  -- One computation on the way posts; the others leave the touchpoints alone.
  have hbefore {α β : Type} {x : Run (World ω) α} {f : α → Run (World ω) β}
      (hx : x.Keeps World.SameTouchpoints) (hf : ∀ a, (f a).Keeps PostsOne) :
      (x >>= f).Keeps PostsOne :=
    Run.Keeps.bind_of_trans (R := World.SameTouchpoints) (S := PostsOne)
      (fun h h' => Nat.le_trans h' (Nat.le_of_eq (congrArg Nat.succ h.lastTouchpoint))) hsame hx hf
  have hafter {α β : Type} {x : Run (World ω) α} {f : α → Run (World ω) β}
      (hx : x.Keeps PostsOne) (hf : ∀ a, (f a).Keeps World.SameTouchpoints) :
      (x >>= f).Keeps PostsOne :=
    Run.Keeps.bind_of_trans (R := PostsOne) (S := World.SameTouchpoints)
      (fun h h' => Nat.le_trans (Nat.le_of_eq h'.lastTouchpoint) h) id hx hf
  have hchange (f : WorkflowState → WorkflowState) (now : Binary64) :
      (World.onStore (Store.changeWorkflow issueId f now) : Run (World ω) _).Keeps
        World.SameTouchpoints :=
    World.onStore_sameTouchpoints (Store.changeWorkflow_sameTouchpoints issueId f now)
  have hannounce (n : Notification) : (e.announce issueId n).Keeps PostsOne := by
    refine hafter (fun w => Store.lastTouchpoint_saveTouchpoint_le issueId _ w.store) fun n => ?_
    rcases hpost : e.postComment with - | post
    · exact .pure _
    · exact (he post hpost issueId n.body).bind fun _ => .pure _
  have hrespond (now : Binary64) (state : WorkflowState) :
      (e.respond issueId identifier cost now state).Keeps PostsOne := by
    refine hbefore (.ofExcept _) fun n? => ?_
    rcases n? with - | n
    · exact fun w => hsame (refl w)
    · exact .ite (hbefore ((e.shelf.set_keeps issueId _ none).mono
        fun _ _ => .of_onlyOverrides) fun _ => hannounce n) (hannounce n)
  rw [recordFailure_eq]
  refine hbefore (.of_eq fun _ => rfl) (fun now => hbefore ?_ fun _ => hbefore ?_ fun _ =>
    hbefore (hchange _ now) fun state => hrespond now state) w
  · exact World.onStore_sameTouchpoints
      ((Store.changeWorkflow_sameTouchpoints issueId _ now).bind fun _ => .pure ())
  · unfold noteSummary
    split
    · exact .pure ()
    · exact .pure ()
    · exact (hchange _ now).bind fun _ => .pure ()

/-! ## Proceeding -/

/-- The touchpoints of a list that have a default action, with it. -/
def withActions (ns : List Notification) : List (Notification × DefaultAction) :=
  ns.filterMap fun n => n.kind.defaultAction?.map fun action => (n, action)

lemma mem_withActions {ns : List Notification} {n : Notification} {action : DefaultAction} :
    (n, action) ∈ withActions ns ↔ n ∈ ns ∧ n.kind.defaultAction? = some action := by
  simp only [withActions, List.mem_filterMap, Option.map_eq_some_iff, Prod.mk.injEq]
  constructor
  · rintro ⟨n, hn, action, haction, rfl, rfl⟩
    exact ⟨hn, haction⟩
  · rintro ⟨hn, haction⟩
    exact ⟨n, hn, action, haction, rfl, rfl⟩

lemma map_fst_withActions (ns : List Notification) :
    (withActions ns).map Prod.fst = ns.filter fun n => n.kind.defaultAction?.isSome := by
  induction ns with
  | nil => rfl
  | cons n rest ih =>
    rw [withActions] at ih ⊢
    rw [List.filterMap_cons]
    cases haction : n.kind.defaultAction? with
    | none => simpa [haction] using ih
    | some action => simpa [haction] using ih

/-- The touchpoints of a list that have a default action are proceeded with, all of them. -/
lemma proceed_of_isStorable {ns : List Notification} {now : Binary64} {w : World ω}
    (hmissing : w.store.missing = []) (hns : ∀ n ∈ ns, Store.IsStorable (n.id.getD 0)) :
    ∃ w', proceed ns now w = (.ok (withActions ns), w') ∧
      (w.store.proceededWith ((withActions ns).map fun p => p.1.id.getD 0) now).SameTouchpoints
        w'.store := by
  induction ns generalizing w with
  | nil =>
    refine ⟨w, rfl, ?_⟩
    rw [withActions, List.filterMap_nil, List.map_nil, Store.proceededWith_nil]
    exact refl w.store
  | cons n rest ih =>
    obtain ⟨hn, hrest⟩ := List.forall_mem_cons.1 hns
    rw [proceed]
    cases haction : n.kind.defaultAction? with
    | none =>
      obtain ⟨w', hproceed, hrows⟩ := ih hmissing hrest
      have hskip : withActions (n :: rest) = withActions rest := by simp [withActions, haction]
      rw [hskip]
      exact ⟨w', hproceed, hrows⟩
    | some action =>
      have htake : withActions (n :: rest) = (n, action) :: withActions rest := by
        simp [withActions, haction]
      let marked : Store := w.store.proceededWith [n.id.getD 0] now
      have hmark : World.onStore (Store.markAutoProceeded (n.id.getD 0) now) w =
          (.ok (), { w with store := marked }) := by
        refine World.onStore_of_eq ?_
        rw [Store.markAutoProceeded_of_has (Store.has_of_missing hmissing _) hn]
        simp only [marked, Store.proceededWith, Store.withTouchpoints, List.mem_singleton]
      have hset : World.onStoreNow (Store.setStrategy n.issueId .decompose)
          { w with store := marked } = (.ok _, { w with store := marked.withWorkflow _ }) :=
        World.onStoreNow_of_eq (Store.changeWorkflow_of_has (s := marked)
          (Store.has_of_missing hmissing _) n.issueId _ w.clock)
      have hgoesOn (v : World ω) (hv : marked.SameTouchpoints v.store) :
          ∃ w', (proceed rest now >>= fun ns => pure ((n, action) :: ns)) v =
              (.ok ((n, action) :: withActions rest), w') ∧
            (w.store.proceededWith (((n, action) :: withActions rest).map
              fun p => p.1.id.getD 0) now).SameTouchpoints w'.store := by
        obtain ⟨w', hproceed, hrows⟩ := ih (w := v) (hv.missing.trans hmissing) hrest
        refine ⟨w', Run.bind_of_ok hproceed, ?_⟩
        rw [List.map_cons, Store.proceededWith_cons]
        refine ⟨?_, ?_, ?_⟩
        · exact hrows.missing.trans hv.missing
        · rw [hrows.touchpoints, Store.proceededWith, Store.proceededWith, Store.withTouchpoints,
            hv.touchpoints]
          rfl
        · exact hrows.lastTouchpoint.trans hv.lastTouchpoint
      rw [htake]
      dsimp only
      rw [Run.bind_of_ok hmark]
      split
      · rw [Run.bind_of_ok hset]
        exact hgoesOn _ ⟨rfl, rfl, rfl⟩
      · exact hgoesOn _ (refl marked)

end Escalation

namespace Store

variable {s : Store}

/-- What a manager proceeds with. -/
def due (s : Store) (now : Binary64) : List (Notification × DefaultAction) :=
  Escalation.withActions (s.overdue now)

lemma mem_due {now : Binary64} {n : Notification} {action : DefaultAction} :
    (n, action) ∈ s.due now ↔ ∃ t ∈ s.touchpoints, t.IsDue now ∧ n = t.toNotification ∧
      t.kind.defaultAction? = some action := by
  rw [due, Escalation.mem_withActions, mem_overdue_iff]
  constructor
  · rintro ⟨⟨t, ht, hopen, rfl, hover⟩, haction⟩
    have hsome : t.kind.defaultAction?.isSome = true := Option.isSome_of_eq_some haction
    exact ⟨t, ht, Touchpoint.isDue_iff.2 ⟨hopen, hsome, hover⟩, rfl, haction⟩
  · rintro ⟨t, ht, hdue, rfl, haction⟩
    obtain ⟨hopen, -, hover⟩ := Touchpoint.isDue_iff.1 hdue
    exact ⟨⟨t, ht, hopen, rfl, hover⟩, haction⟩

/-- The numbers of what is due are those of touchpoints that are due. -/
lemma mem_ids_due {now : Binary64} {id : Int} :
    id ∈ (s.due now).map (fun p => p.1.id.getD 0) ↔
      ∃ t ∈ s.touchpoints, t.IsDue now ∧ (t.id : Int) = id := by
  simp only [List.mem_map, Prod.exists, mem_due]
  constructor
  · rintro ⟨n, action, ⟨t, ht, hdue, rfl, -⟩, rfl⟩
    exact ⟨t, ht, hdue, rfl⟩
  · rintro ⟨t, ht, hdue, rfl⟩
    obtain ⟨-, haction, -⟩ := Touchpoint.isDue_iff.1 hdue
    obtain ⟨action, haction⟩ := Option.isSome_iff_exists.1 haction
    exact ⟨t.toNotification, action, ⟨t, ht, hdue, rfl, haction⟩, rfl⟩

namespace TouchpointsInOrder

variable (h : s.TouchpointsInOrder)

include h

lemma isDue_of_mem_ids {now : Binary64} {t : Touchpoint} (ht : t ∈ s.touchpoints)
    (hid : (t.id : Int) ∈ (s.due now).map fun p => p.1.id.getD 0) : t.IsDue now := by
  obtain ⟨u, hu, hdue, hsame⟩ := mem_ids_due.1 hid
  exact h.eq_of_id hu ht (Int.ofNat.inj hsame) ▸ hdue

lemma pairwise_due (now : Binary64) :
    (s.due now).Pairwise fun p q => p.1.postedAt ≤ q.1.postedAt := by
  have hopen : ((s.openTouchpoints none).map Touchpoint.toNotification).Pairwise
      fun n m => n.postedAt ≤ m.postedAt :=
    List.pairwise_map.2 (h.pairwise_openTouchpoints none)
  have hdue : ((s.due now).map Prod.fst).Pairwise fun n m => n.postedAt ≤ m.postedAt := by
    rw [due, Escalation.map_fst_withActions]
    exact (hopen.filter _).filter _
  exact (List.pairwise_map (f := Prod.fst)).1 hdue

lemma nodup_due (now : Binary64) : ((s.due now).map fun p => p.1.id).Nodup := by
  have hchosen : ((s.openTouchpoints none).map Touchpoint.id).Nodup :=
    (((List.mergeSort_perm _ _).map _).nodup_iff).2 (h.numbers.sublist (List.filter_sublist.map _))
  have hopen : (((s.openTouchpoints none).map Touchpoint.toNotification).map
      Notification.id).Nodup := by
    have hids := hchosen.map (f := fun id : Nat => some (id : Int)) fun _ _ hid =>
      Int.ofNat.inj (Option.some.inj hid)
    rw [List.map_map] at hids ⊢
    exact hids
  have hdue : (((s.due now).map Prod.fst).map Notification.id).Nodup := by
    rw [due, Escalation.map_fst_withActions]
    exact hopen.sublist ((List.filter_sublist.trans List.filter_sublist).map _)
  rwa [List.map_map] at hdue

lemma proceededWith_due_carriesOn (now : Binary64) :
    s.CarriesOn (s.proceededWith ((s.due now).map fun p => p.1.id.getD 0) now) := by
  cases hnow : now.isNaN with
  | false =>
    exact carriesOn_proceededWith hnow fun _ t ht hid => (h.isDue_of_mem_ids ht hid).isOpen
  | true =>
    -- Nothing is due at a time that is no number.
    have hnone : (s.due now).map (fun p => p.1.id.getD 0) = [] := by
      refine List.eq_nil_iff_forall_not_mem.2 fun id hid => ?_
      obtain ⟨t, -, hdue, -⟩ := mem_ids_due.1 hid
      obtain ⟨window, -, -, hover⟩ := hdue.overdue
      rw [Binary64.isNaN_of_lt hover] at hnow
      cases hnow
    rw [hnone, proceededWith_nil]
    exact refl s

end TouchpointsInOrder

/-- After what was due has been proceeded with, nothing is due at this or any earlier time. -/
lemma due_proceededWith {now earlier : Binary64} (hle : earlier ≤ now) :
    (s.proceededWith ((s.due now).map fun p => p.1.id.getD 0) now).due earlier = [] := by
  refine List.eq_nil_iff_forall_not_mem.2 fun ⟨n, action⟩ hmem => ?_
  obtain ⟨u, hu, hdue, -⟩ := mem_due.1 hmem
  obtain ⟨t, ht, rfl⟩ := List.mem_map.1 hu
  by_cases hid : (t.id : Int) ∈ (s.due now).map fun p => p.1.id.getD 0
  · obtain ⟨t', -, hdue', -⟩ := mem_ids_due.1 hid
    obtain ⟨window, -, -, hover⟩ := hdue'.overdue
    have hkept : kept now = some now := by simp [kept, Binary64.isNaN_of_lt hover]
    have hopen := hdue.isOpen
    simp [hid, hkept, Touchpoint.isOpen] at hopen
  · rw [if_neg hid] at hdue
    exact hid (mem_ids_due.2 ⟨t, ht, hdue.mono hle, rfl⟩)

lemma due_of_same {s' : Store} (hsame : s.SameTouchpoints s') (now : Binary64) :
    s'.due now = s.due now := by
  rw [due, due, overdue, overdue, openTouchpoints, openTouchpoints, hsame.touchpoints]

end Store

/-- A manager proceeds with exactly what is due, once for each touchpoint and in the order in which
the touchpoints were posted.  Right afterwards nothing is left for any manager to proceed with at
this or at any earlier time. -/
def World.ProceedsExactly (w : World ω) (e : Escalation ω) (now? : Option Binary64) : Prop :=
  ∃ proceeded w', e.processTimeouts now? w = (.ok proceeded, w') ∧
    (∀ n action, (n, action) ∈ proceeded ↔ ∃ t ∈ w.store.touchpoints,
      t.IsDue (now?.getD w.clock) ∧ n = t.toNotification ∧ t.kind.defaultAction? = some action) ∧
    (proceeded.map fun p => p.1.id).Nodup ∧
    (proceeded.Pairwise fun p q => p.1.postedAt ≤ q.1.postedAt) ∧
    ∀ (e' : Escalation ω) clock now'?, now'?.getD clock ≤ now?.getD w.clock →
      e'.processTimeouts now'? { w' with clock } = (.ok [], { w' with clock })

section Exactness

variable {w : World ω} (h : w.store.TouchpointsInOrder)
  (hnumbers : (w.store.lastTouchpoint : Int) < twoPow 63)

include h hnumbers

/-- If the touchpoints are in order and their numbers fit into a column, then all that is due is
proceeded with. -/
lemma Escalation.processTimeouts_of_inOrder (e : Escalation ω) (now? : Option Binary64) :
    ∃ w', e.processTimeouts now? w = (.ok (w.store.due (now?.getD w.clock)), w') ∧
      (w.store.proceededWith ((w.store.due (now?.getD w.clock)).map fun p => p.1.id.getD 0)
        (now?.getD w.clock)).SameTouchpoints w'.store := by
  rw [e.processTimeouts_of_has (Store.has_of_missing h.missing _)]
  refine proceed_of_isStorable h.missing fun n hn => ?_
  obtain ⟨t, ht, -, rfl, -⟩ := Store.mem_overdue_iff.1 hn
  have hid : (t.id : Int) ≤ w.store.lastTouchpoint := Int.ofNat_le.2 (h.known t ht)
  change Store.IsStorable (t.id : Int)
  unfold Store.IsStorable
  omega

lemma World.proceedsExactly (e : Escalation ω) (now? : Option Binary64) :
    w.ProceedsExactly e now? := by
  obtain ⟨w', hproceed, hrows⟩ := e.processTimeouts_of_inOrder h hnumbers now?
  refine ⟨_, w', hproceed, fun n action => Store.mem_due, h.nodup_due _, h.pairwise_due _, ?_⟩
  intro e' clock now'? hle
  have hmissing : w'.store.missing = [] := hrows.missing.trans h.missing
  have hnone : w'.store.due (now'?.getD clock) = [] := by
    rw [Store.due_of_same hrows, Store.due_proceededWith hle]
  rw [e'.processTimeouts_of_has (w := { w' with clock }) (Store.has_of_missing hmissing _)]
  refine Escalation.proceed_of_none fun n hn => Option.eq_none_iff_forall_ne_some.2 fun action => ?_
  intro haction
  have hmem : (n, action) ∈ w'.store.due (now'?.getD clock) :=
    Escalation.mem_withActions.2 ⟨hn, haction⟩
  rw [hnone] at hmem
  exact absurd hmem List.not_mem_nil

end Exactness

/-! ## Runs -/

/-- An operation that posts or closes touchpoints. -/
inductive Upkeep (ω : Type) where
  | failure (e : Escalation ω) (discreet : e.IsDiscreet) (issueId identifier : String)
      (summary : Option String) (cost : Option Binary64)
  | directive (e : Escalation ω) (issueId : String) (d : Directive)
  | timeouts (e : Escalation ω) (now? : Option Binary64)

namespace Upkeep

/-- The world after an operation. -/
def after : Upkeep ω → World ω → World ω
  | failure e _ issueId identifier summary cost, w =>
    (e.recordFailure issueId identifier summary cost w).2
  | directive e issueId d, w => (e.apply issueId d w).2
  | timeouts e now?, w => (e.processTimeouts now? w).2

/-- What an operation has proceeded with. -/
def proceeded : Upkeep ω → World ω → List (Notification × DefaultAction)
  | timeouts e now?, w => (e.processTimeouts now? w).1.toOption.getD []
  | _, _ => []

/-- An operation posts one touchpoint at most. -/
lemma lastTouchpoint_after_le (u : Upkeep ω) (w : World ω)
    (h : w.store.TouchpointsInOrder) (hnumbers : (w.store.lastTouchpoint : Int) < twoPow 63) :
    (u.after w).store.lastTouchpoint ≤ w.store.lastTouchpoint + 1 := by
  cases u with
  | failure e discreet issueId identifier summary cost =>
    exact e.lastTouchpoint_recordFailure_le discreet issueId identifier summary cost w
  | directive e issueId d =>
    have hsteers := (e.apply_keeps issueId d w).store
    refine Nat.le_succ_of_le (Nat.le_of_eq ?_)
    rw [after, hsteers]
  | timeouts e now? =>
    obtain ⟨w', hproceed, hrows⟩ := e.processTimeouts_of_inOrder h hnumbers now?
    rw [after, hproceed]
    exact Nat.le_succ_of_le (Nat.le_of_eq hrows.lastTouchpoint)

/-- An operation leaves touchpoints that are in order in order. -/
lemma carriesOn_after (u : Upkeep ω) {w : World ω} (h : w.store.TouchpointsInOrder)
    (hnumbers : (w.store.lastTouchpoint : Int) < twoPow 63) : w.CarriesOn (u.after w) := by
  cases u with
  | failure e discreet issueId identifier summary cost =>
    exact e.recordFailure_carriesOn discreet issueId identifier summary cost w
  | directive e issueId d => exact e.apply_carriesOn issueId d w
  | timeouts e now? =>
    obtain ⟨w', hproceed, hrows⟩ := e.processTimeouts_of_inOrder h hnumbers now?
    rw [after, hproceed]
    exact trans_of Store.CarriesOn (h.proceededWith_due_carriesOn _) (.of_same hrows)

/-- Whatever has been proceeded with was due, and is closed afterwards. -/
lemma exists_of_mem_proceeded {u : Upkeep ω} {w : World ω} (h : w.store.TouchpointsInOrder)
    (hnumbers : (w.store.lastTouchpoint : Int) < twoPow 63)
    {p : Notification × DefaultAction} (hp : p ∈ u.proceeded w) :
    ∃ t ∈ w.store.touchpoints, p.1 = t.toNotification ∧ t.isOpen = true ∧
      (t.kind = .reviewRequest ∨ t.kind = .decompositionProposal) ∧
      ∃ t' ∈ (u.after w).store.touchpoints, t'.id = t.id ∧ t'.isOpen = false := by
  cases u with
  | failure => exact absurd hp List.not_mem_nil
  | directive => exact absurd hp List.not_mem_nil
  | timeouts e now? =>
    obtain ⟨w', hproceed, hrows⟩ := e.processTimeouts_of_inOrder h hnumbers now?
    rw [proceeded, hproceed] at hp
    obtain ⟨t, ht, hdue, hsame, -⟩ := Store.mem_due.1 hp
    obtain ⟨window, -, -, hover⟩ := hdue.overdue
    have hid : (t.id : Int) ∈ (w.store.due (now?.getD w.clock)).map fun p => p.1.id.getD 0 :=
      Store.mem_ids_due.2 ⟨t, ht, hdue, rfl⟩
    refine ⟨t, ht, hsame, hdue.isOpen, hdue.kind,
      { t with autoProceededAt := some (now?.getD w.clock) }, ?_, rfl, ?_⟩
    · rw [after, hproceed, hrows.touchpoints]
      refine List.mem_map.2 ⟨t, ht, ?_⟩
      rw [if_pos hid, Store.kept, Binary64.isNaN_of_lt hover]
      rfl
    · simp [Touchpoint.isOpen]

/-- One operation proceeds with no touchpoint twice. -/
lemma nodup_proceeded {u : Upkeep ω} {w : World ω} (h : w.store.TouchpointsInOrder)
    (hnumbers : (w.store.lastTouchpoint : Int) < twoPow 63) :
    ((u.proceeded w).map fun p => p.1.id).Nodup := by
  cases u with
  | failure => exact List.nodup_nil
  | directive => exact List.nodup_nil
  | timeouts e now? =>
    obtain ⟨w', hproceed, -⟩ := e.processTimeouts_of_inOrder h hnumbers now?
    rw [proceeded, hproceed]
    exact h.nodup_due _

end Upkeep

namespace World

/-- The world after a run of operations, each at its own clock reading. -/
def upkeep : World ω → List (Binary64 × Upkeep ω) → World ω
  | w, [] => w
  | w, (clock, u) :: us => upkeep (u.after { w with clock }) us

/-- What has been proceeded with in a run. -/
def proceeded : World ω → List (Binary64 × Upkeep ω) → List (Notification × DefaultAction)
  | _, [] => []
  | w, (clock, u) :: us =>
    u.proceeded { w with clock } ++ proceeded (u.after { w with clock }) us

lemma upkeep_append (w : World ω) (us us' : List (Binary64 × Upkeep ω)) :
    w.upkeep (us ++ us') = (w.upkeep us).upkeep us' := by
  induction us generalizing w with
  | nil => rfl
  | cons u us ih => exact ih _

/-- In a run the touchpoints go on in order, as long as their numbers fit into a column. -/
lemma carriesOn_upkeep {w : World ω} {us : List (Binary64 × Upkeep ω)}
    (h : w.store.TouchpointsInOrder)
    (hnumbers : (w.store.lastTouchpoint + us.length : Int) < twoPow 63) :
    (w.upkeep us).store.TouchpointsInOrder ∧ w.store.TouchpointsGoOn (w.upkeep us).store ∧
      (w.upkeep us).store.lastTouchpoint ≤ w.store.lastTouchpoint + us.length := by
  induction us generalizing w with
  | nil => exact ⟨h, refl w.store, Nat.le_refl _⟩
  | cons u us ih =>
    obtain ⟨clock, u⟩ := u
    rw [List.length_cons] at hnumbers ⊢
    have hnow : (w.store.lastTouchpoint : Int) < twoPow 63 := by omega
    have hlast := u.lastTouchpoint_after_le { w with clock } h hnow
    obtain ⟨hfirst, hevolve⟩ := u.carriesOn_after (w := { w with clock }) h hnow h
    obtain ⟨hend, hrest, hbound⟩ := ih hfirst (by dsimp only at hlast; omega)
    refine ⟨hend, trans_of Store.TouchpointsGoOn hevolve hrest, ?_⟩
    dsimp only at hlast
    rw [upkeep]
    omega

/-- Whatever is proceeded with in a run is an open touchpoint at that moment. -/
lemma exists_of_mem_proceeded {w : World ω} {us : List (Binary64 × Upkeep ω)}
    (h : w.store.TouchpointsInOrder)
    (hnumbers : (w.store.lastTouchpoint + us.length : Int) < twoPow 63)
    {p : Notification × DefaultAction} (hp : p ∈ w.proceeded us) :
    ∃ v : World ω, v.store.TouchpointsInOrder ∧ w.store.TouchpointsGoOn v.store ∧
      ∃ t ∈ v.store.touchpoints, p.1 = t.toNotification ∧ t.isOpen = true ∧
        (t.kind = .reviewRequest ∨ t.kind = .decompositionProposal) := by
  induction us generalizing w with
  | nil => exact absurd hp List.not_mem_nil
  | cons u us ih =>
    obtain ⟨clock, u⟩ := u
    rw [List.length_cons] at hnumbers
    have hnow : (w.store.lastTouchpoint : Int) < twoPow 63 := by omega
    rcases List.mem_append.1 hp with hp | hp
    · obtain ⟨t, ht, hsame, hopen, hkind, -⟩ :=
        Upkeep.exists_of_mem_proceeded (w := { w with clock }) h hnow hp
      exact ⟨w, h, refl w.store, t, ht, hsame, hopen, hkind⟩
    · have hlast := u.lastTouchpoint_after_le { w with clock } h hnow
      obtain ⟨hfirst, hevolve⟩ := u.carriesOn_after (w := { w with clock }) h hnow h
      obtain ⟨v, hv, hgoesOn, hexists⟩ := ih hfirst (by dsimp only at hlast; omega) hp
      exact ⟨v, hv, trans_of Store.TouchpointsGoOn hevolve hgoesOn, hexists⟩

/-- In a run no touchpoint is proceeded with twice. -/
lemma nodup_proceeded {w : World ω} {us : List (Binary64 × Upkeep ω)}
    (h : w.store.TouchpointsInOrder)
    (hnumbers : (w.store.lastTouchpoint + us.length : Int) < twoPow 63) :
    ((w.proceeded us).map fun p => p.1.id).Nodup := by
  induction us generalizing w with
  | nil => exact List.nodup_nil
  | cons u us ih =>
    obtain ⟨clock, u⟩ := u
    rw [List.length_cons] at hnumbers
    have hnow : (w.store.lastTouchpoint : Int) < twoPow 63 := by omega
    have hlast := u.lastTouchpoint_after_le { w with clock } h hnow
    obtain ⟨hfirst, -⟩ := u.carriesOn_after (w := { w with clock }) h hnow h
    have hbound : ((u.after { w with clock }).store.lastTouchpoint + us.length : Int) <
        twoPow 63 := by
      dsimp only at hlast
      omega
    rw [proceeded, List.map_append]
    refine (Upkeep.nodup_proceeded (w := { w with clock }) h hnow).append (ih hfirst hbound) ?_
    -- What is proceeded with first is closed from then on, and what comes later is open.
    intro id hid hid'
    obtain ⟨p, hp, rfl⟩ := List.mem_map.1 hid
    obtain ⟨q, hq, hsame⟩ := List.mem_map.1 hid'
    obtain ⟨t, -, hpt, -, -, t', ht', hnumber, hclosed⟩ :=
      Upkeep.exists_of_mem_proceeded (w := { w with clock }) h hnow hp
    obtain ⟨v, hv, hgoesOn, r, hr, hqr, hopen, -⟩ := exists_of_mem_proceeded hfirst hbound hq
    refine hv.id_ne_of_closed hgoesOn ht' hclosed hr hopen ?_
    rw [hnumber]
    rw [hpt, hqr] at hsame
    exact Int.ofNat.inj (Option.some.inj hsame)

/-- What a run makes of touchpoints: each is closed once at most and otherwise stays as it was
posted, and those that are due are proceeded with, once and for all. -/
structure HandlesTouchpoints (w : World ω) (us : List (Binary64 × Upkeep ω)) : Prop where
  /-- At any moment no touchpoint has been closed in both ways. -/
  marks : ∀ before after, us = before ++ after → ∀ t ∈ (w.upkeep before).store.touchpoints,
    t.respondedAt = none ∨ t.autoProceededAt = none
  /-- From any moment to the end of the run touchpoints stay, and change only by being closed. -/
  goOn : ∀ before after, us = before ++ after →
    (w.upkeep before).store.TouchpointsGoOn (w.upkeep us).store
  /-- At any moment every manager proceeds with exactly what is due. -/
  exact : ∀ before after, us = before ++ after → ∀ (e : Escalation ω) now? clock,
    ({ w.upkeep before with clock } : World ω).ProceedsExactly e now?
  /-- No touchpoint is proceeded with twice. -/
  once : ((w.proceeded us).map fun p => p.1.id).Nodup
  /-- No alert is proceeded with. -/
  noAlert : ∀ p ∈ w.proceeded us, p.1.kind ≠ .escalationAlert

/-- Every run that begins without touchpoints handles them so, whatever its operations, their times
and their issues, as long as the numbers of touchpoints fit into a column. -/
theorem handlesTouchpoints {w : World ω} (hmissing : w.store.missing = [])
    (hempty : w.store.touchpoints = []) {us : List (Binary64 × Upkeep ω)}
    (hnumbers : (w.store.lastTouchpoint + us.length : Int) < twoPow 63) :
    w.HandlesTouchpoints us := by
  have hstart := Store.touchpointsInOrder_of_nil hmissing hempty
  have hmoment (before after : List (Binary64 × Upkeep ω)) (hrun : us = before ++ after) :
      (w.upkeep before).store.TouchpointsInOrder ∧
        ((w.upkeep before).store.lastTouchpoint + after.length : Int) < twoPow 63 := by
    rw [hrun, List.length_append] at hnumbers
    have hbefore : (w.store.lastTouchpoint + before.length : Int) < twoPow 63 := by omega
    obtain ⟨horder, -, hlast⟩ := carriesOn_upkeep hstart hbefore
    exact ⟨horder, by omega⟩
  refine ⟨fun before after hrun => (hmoment before after hrun).1.marks, ?_, ?_,
    nodup_proceeded hstart hnumbers, ?_⟩
  · intro before after hrun
    obtain ⟨horder, hrest⟩ := hmoment before after hrun
    rw [hrun, upkeep_append]
    exact (carriesOn_upkeep horder hrest).2.1
  · intro before after hrun e now? clock
    obtain ⟨horder, hrest⟩ := hmoment before after hrun
    exact proceedsExactly (w := { w.upkeep before with clock }) horder (by dsimp only; omega) e
      now?
  · intro p hp halert
    obtain ⟨v, -, -, t, -, hsame, -, hkind⟩ := exists_of_mem_proceeded hstart hnumbers hp
    rw [hsame] at halert
    rcases hkind with hkind | hkind <;> exact absurd (halert.symm.trans hkind) (by decide)

/-- Cycles of two issues fail, and one of them is put on hold; the other one is waited for in
vain. -/
def lateRun : List (Binary64 × Upkeep Unit) :=
  [(0, .failure .standard (fun _ hpost => nomatch hpost) "a" "A-1" none none),
    (5, .failure .standard (fun _ hpost => nomatch hpost) "b" "B-1" none none),
    (10, .directive .standard "b" { kind := .hold }), (20000, .timeouts .standard none),
    (15, .timeouts .standard (some 30000))]

/-- In this run one touchpoint is answered, and the other one is proceeded with once. -/
theorem handlesTouchpoints_lateRun :
    (fresh.proceeded lateRun).map (fun p => (p.1.id, p.2)) = [(some 1, .refine)] ∧
      fresh.HandlesTouchpoints lateRun :=
  ⟨by decide +kernel, handlesTouchpoints rfl rfl (by decide)⟩

end World

end IssueDispatch
