import IssueDispatch.Proofs.Governor.Cycles

/-!
# Escalation goes up

With the same number of failed cycles the strategy of an issue only ever gets higher, and a failed
cycle makes it the one that the new count calls for.  `WorkflowState.Climbs` says both, and it holds
between any two points of a run in which no directive is followed for the issue.

So the strategy is never lowered, but for two reasons.  A directive may have put it ahead of the
count, and then the next failed cycle brings it back to what the count calls for.  And a proposal to
break the issue up may time out when the issue has been left to a human in the meantime.
-/

namespace IssueDispatch

variable {ω α : Type} {shelf : OverrideShelf} {issueId : String} {w w' : World ω}

/-! ## Records -/

namespace WorkflowState

/-- What a record may become: with the same count the strategy is not lower, and with a higher count
it is not lower than what the next failed cycle called for. -/
def Climbs (x y : WorkflowState) : Prop :=
  (y.cycleCount = x.cycleCount ∧ x.strategy.rank ≤ y.strategy.rank) ∨
    (x.cycleCount < y.cycleCount ∧
      (Strategy.forCycles (x.cycleCount + 1)).rank ≤ y.strategy.rank)

/-- What a record may become as long as the issue is not left to a human. -/
def ClimbsBelow (x y : WorkflowState) : Prop :=
  x.strategy ≠ .escalateHuman → y.strategy ≠ .escalateHuman ∧ x.Climbs y

lemma Climbs.of_same {x y : WorkflowState} (hcount : y.cycleCount = x.cycleCount)
    (hstrategy : y.strategy = x.strategy) : x.Climbs y :=
  Or.inl ⟨hcount, Nat.le_of_eq (congrArg Strategy.rank hstrategy.symm)⟩

protected lemma Climbs.trans {x y z : WorkflowState} (h : x.Climbs y) (h' : y.Climbs z) :
    x.Climbs z := by
  rcases h with ⟨hcount, hrank⟩ | ⟨hcount, hrank⟩
  · rcases h' with ⟨hcount', hrank'⟩ | ⟨hcount', hrank'⟩
    · exact Or.inl ⟨hcount'.trans hcount, Nat.le_trans hrank hrank'⟩
    · rw [hcount] at hcount' hrank'
      exact Or.inr ⟨hcount', hrank'⟩
  · rcases h' with ⟨hcount', hrank'⟩ | ⟨hcount', hrank'⟩
    · rw [← hcount'] at hcount
      exact Or.inr ⟨hcount, Nat.le_trans hrank hrank'⟩
    · -- Later failures start from a higher count, and what is called for is monotone in it.
      have hmono : (Strategy.forCycles (x.cycleCount + 1)).rank ≤
          (Strategy.forCycles (y.cycleCount + 1)).rank := Strategy.rank_forCycles_mono (by omega)
      exact Or.inr ⟨by omega, Nat.le_trans hmono hrank'⟩

instance : IsPreorder WorkflowState Climbs where
  refl _ := .of_same rfl rfl
  trans _ _ _ := Climbs.trans

instance : IsPreorder WorkflowState ClimbsBelow where
  refl _ h := ⟨h, .of_same rfl rfl⟩
  trans _ _ _ h h' hbelow := by
    obtain ⟨hbelow, hclimbs⟩ := h hbelow
    obtain ⟨hbelow, hclimbs'⟩ := h' hbelow
    exact ⟨hbelow, hclimbs.trans hclimbs'⟩

/-- A failed cycle goes up to the next step. -/
lemma climbs_countFailure (x : WorkflowState) : x.Climbs x.countFailure :=
  Or.inr ⟨Int.lt_add_one_iff.2 (Int.le_refl _), Nat.le_refl _⟩

/-- Whatever is not left to a human may be broken up. -/
lemma climbsBelow_decompose (x : WorkflowState) :
    x.ClimbsBelow { x with strategy := .decompose } := by
  intro hbelow
  have hrank : x.strategy.rank ≤ 2 := by
    cases hstrategy : x.strategy with
    | escalateHuman => exact absurd hstrategy hbelow
    | normal | contextEnriched | decompose => decide
    | other => exact Nat.zero_le 2
  exact ⟨nofun, Or.inl ⟨rfl, hrank⟩⟩

end WorkflowState

/-! ## What is done to the record of one issue -/

section OnRecord

variable {R : WorkflowState → WorkflowState → Prop}

/-- The record of an issue has become another one, as a relation allows. -/
def Store.OnRecord (R : WorkflowState → WorkflowState → Prop) (issueId : String) (s s' : Store) :
    Prop :=
  R (s.workflowOf issueId) (s'.workflowOf issueId)

/-- The record of an issue has become another one, as a relation allows. -/
def World.OnRecord (R : WorkflowState → WorkflowState → Prop) (issueId : String)
    (w w' : World ω) : Prop :=
  w.store.OnRecord R issueId w'.store

lemma World.onStore_onRecord {x : Run Store α} (hx : x.Keeps (Store.OnRecord R issueId)) :
    (onStore x : Run (World ω) α).Keeps (OnRecord R issueId) :=
  fun w => hx w.store

lemma World.onStoreNow_onRecord {x : Binary64 → Run Store α}
    (hx : ∀ now, (x now).Keeps (Store.OnRecord R issueId)) :
    (onStoreNow x : Run (World ω) α).Keeps (OnRecord R issueId) :=
  fun w => hx w.clock w.store

variable [IsPreorder WorkflowState R]

instance : IsPreorder Store (Store.OnRecord R issueId) where
  refl s := refl_of R (s.workflowOf issueId)
  trans _ _ _ h h' := trans_of R h h'

instance : IsPreorder (World ω) (World.OnRecord R issueId) where
  refl w := refl_of (Store.OnRecord R issueId) w.store
  trans _ _ _ h h' := trans_of (Store.OnRecord R issueId) h h'

namespace Store

lemma OnRecord.of_workflow_eq {s s' : Store} (h : s'.workflow = s.workflow) :
    s.OnRecord R issueId s' := by
  unfold OnRecord workflowOf
  rw [h]
  exact refl_of R _

/-- A record is written as a relation allows if it is that of another issue or allowed itself. -/
lemma onRecord_withWorkflow {s : Store} {x : WorkflowState}
    (h : x.issueId = issueId → R (s.workflowOf issueId) x) :
    s.OnRecord R issueId (s.withWorkflow x) := by
  unfold OnRecord
  rw [workflowOf_withWorkflow]
  split
  · rename_i hissue
    exact h hissue
  · exact refl_of R _

lemma changeWorkflow_onRecord (f : WorkflowState → WorkflowState) {other : String}
    (hkey : ∀ x, (f x).issueId = x.issueId) (now : Binary64)
    (hf : other = issueId → ∀ x, R x { f x with updatedAt := now }) :
    (changeWorkflow other f now).Keeps (OnRecord R issueId) := by
  intro s
  rcases changeWorkflow_cases other f now s with ⟨-, h⟩ | ⟨e, -, h⟩
  · rw [h]
    refine onRecord_withWorkflow fun hissue => ?_
    have hother : other = issueId := by
      rw [← hissue]
      dsimp only
      rw [hkey, workflowOf_issueId]
    subst hother
    exact hf rfl _
  · rw [h]
    exact refl s

/-- An issue is to be broken up. -/
lemma setStrategy_onRecord {other : String} (now : Binary64)
    (h : other = issueId → ∀ x : WorkflowState,
      R x { x with strategy := .decompose, updatedAt := now }) :
    (setStrategy other .decompose now).Keeps (OnRecord R issueId) :=
  changeWorkflow_onRecord (fun x => { x with strategy := .decompose }) (fun _ => rfl) now h

/-- That quality assurance has failed is noted, in the record of the issue in question. -/
lemma markQaFailed_onRecord {other : String} (now : Binary64)
    (h : other = issueId → ∀ x : WorkflowState,
      R x { x with qaFailedAt := some now, updatedAt := now }) :
    (markQaFailed other now).Keeps (OnRecord R issueId) :=
  (changeWorkflow_onRecord (fun x => { x with qaFailedAt := some now }) (fun _ => rfl) now h).bind
    fun _ => .pure ()

/-- That quality assurance has failed is forgotten, in the record of the issue in question. -/
lemma clearQaFailed_onRecord {other : String} (now : Binary64)
    (h : other = issueId → ∀ x : WorkflowState,
      R x { x with qaFailedAt := none, updatedAt := now }) :
    (clearQaFailed other now).Keeps (OnRecord R issueId) := by
  intro s
  rcases clearQaFailed_cases other now s with hsame | hforgotten
  · rw [hsame]
    exact refl s
  · rw [hforgotten]
    refine onRecord_withWorkflow fun hissue => ?_
    have hother : other = issueId := (s.workflowOf_issueId other).symm.trans hissue
    rw [hother]
    exact h hother _

/-- Starting an issue afresh does not concern the others. -/
lemma clearWorkflow_onRecord {other : String} (hother : other ≠ issueId) :
    (clearWorkflow other).Keeps (OnRecord R issueId) := by
  refine changing_keeps _ fun s => ?_
  unfold OnRecord workflowOf
  rw [find?_filter_key WorkflowState.issueId, if_neg hother]
  exact refl_of R _

end Store

namespace World

lemma OnRecord.of_sameRecords (h : w.SameRecords w') : w.OnRecord R issueId w' :=
  Store.OnRecord.of_workflow_eq h

lemma onStore_onlyTouchpoints {x : Run Store α} (hx : x.Keeps Store.OnlyTouchpoints) :
    (onStore x : Run (World ω) α).Keeps (OnRecord R issueId) :=
  onStore_onRecord (hx.mono fun _ _ h => .of_workflow_eq h.workflow)

end World

end OnRecord

/-! ## Success and failure -/

open WorkflowState (Climbs ClimbsBelow)

namespace Escalation

variable {e : Escalation ω}

/-- To note a success is no step down. -/
lemma recordSuccess_climbs (e : Escalation ω) (other : String) :
    (e.recordSuccess other).Keeps (World.OnRecord Climbs issueId) :=
  World.onStoreNow_onRecord fun now =>
    Store.clearQaFailed_onRecord now fun _ _ => .of_same rfl rfl

/-- A failed cycle becomes the record of an issue as noting the failure, adding its summary and
counting it do, if it is a cycle of that issue. -/
lemma IsInstalled.recordFailure_onRecord {R : WorkflowState → WorkflowState → Prop}
    [IsPreorder WorkflowState R] (he : e.IsInstalled shelf) {other : String}
    (hmark : other = issueId → ∀ (x : WorkflowState) now,
      R x { x with qaFailedAt := some now, updatedAt := now })
    (hsummary : other = issueId → ∀ (x : WorkflowState) summary now,
      R x { x.addSummary summary with updatedAt := now })
    (hcount : other = issueId → ∀ (x : WorkflowState) now,
      R x { x.countFailure with updatedAt := now })
    (identifier : String) (summary : Option String) (cost : Option Binary64) :
    (e.recordFailure other identifier summary cost).Keeps (World.OnRecord R issueId) := by
  refine e.recordFailure_keeps (fun now => ?_) (fun summary now => ?_) (fun now => ?_)
    (fun now => ?_) (fun n => ?_) (fun post hpost body => ?_) identifier summary cost
  · exact World.onStore_onRecord (Store.markQaFailed_onRecord now fun h x => hmark h x now)
  · exact World.onStore_onRecord (Store.changeWorkflow_onRecord (·.addSummary summary)
      (fun _ => rfl) now fun h x => hsummary h x summary now)
  · exact World.onStore_onRecord (Store.changeWorkflow_onRecord WorkflowState.countFailure
      (fun _ => rfl) now fun h x => hcount h x now)
  · exact (e.shelf.set_keeps other _ none).mono fun _ _ h => .of_sameRecords (.of_onlyOverrides h)
  · exact World.onStore_onlyTouchpoints (Store.saveTouchpoint_onlyTouchpoints other n)
  · exact (he.postComment post hpost other body).mono fun _ _ h =>
      .of_sameRecords (.of_onlyOutside h)

/-- To count a failure is a step up. -/
lemma IsInstalled.recordFailure_climbs (he : e.IsInstalled shelf) (other identifier : String)
    (summary : Option String) (cost : Option Binary64) :
    (e.recordFailure other identifier summary cost).Keeps (World.OnRecord Climbs issueId) :=
  he.recordFailure_onRecord (fun _ _ _ => .of_same rfl rfl) (fun _ _ _ _ => .of_same rfl rfl)
    (fun _ x _ => x.climbs_countFailure) identifier summary cost

/-! ## Directives -/

/-- Following a directive becomes the record of an issue as breaking it up does, unless the issue is
resumed. -/
lemma apply_onRecord {R : WorkflowState → WorkflowState → Prop} [IsPreorder WorkflowState R]
    (e : Escalation ω) {other : String} {d : Directive}
    (hresume : other = issueId → d.kind ≠ .resume)
    (hdecompose : other = issueId → ∀ (x : WorkflowState) now,
      R x { x with strategy := .decompose, updatedAt := now }) :
    (e.apply other d).Keeps (World.OnRecord R issueId) := by
  have hmark (now : Binary64) :
      (Store.markResponded other now).Keeps (Store.OnRecord R issueId) :=
    (Store.markResponded_onlyTouchpoints other now).mono fun _ _ h => .of_workflow_eq h.workflow
  rw [apply_eq]
  refine (World.onStoreNow_onRecord hmark).bind fun _ => .bind ?_ fun _ => ?_
  · exact (e.enforce_keeps other d).mono fun _ _ h => .of_sameRecords (.of_onlyOverrides h)
  · refine adapt_keeps (fun hkind => ?_) fun _ => ?_
    · exact World.onStore_onRecord (Store.clearWorkflow_onRecord fun h => hresume h hkind)
    · exact World.onStoreNow_onRecord fun now =>
        Store.setStrategy_onRecord now fun h x => hdecompose h x now

/-- A directive for another issue does not concern the record. -/
lemma apply_onRecord_of_ne {R : WorkflowState → WorkflowState → Prop} [IsPreorder WorkflowState R]
    (e : Escalation ω) {other : String} (hother : other ≠ issueId) (d : Directive) :
    (e.apply other d).Keeps (World.OnRecord R issueId) :=
  e.apply_onRecord (fun h => absurd h hother) fun h => absurd h hother

/-! ## Touchpoints that time out -/

/-- To mark a touchpoint does not concern any record. -/
lemma markAutoProceeded_onRecord {R : WorkflowState → WorkflowState → Prop}
    [IsPreorder WorkflowState R] (id : Int) (now : Binary64) :
    (World.onStore (Store.markAutoProceeded id now) : Run (World ω) _).Keeps
      (World.OnRecord R issueId) :=
  World.onStore_onlyTouchpoints (Store.markAutoProceeded_onlyTouchpoints id now)

/-- Proceeding with touchpoints lowers the strategy of an issue only if it has been left to a human
and one of them proposes to break it up. -/
lemma proceed_climbs {ns : List Notification}
    (hns : (w.store.workflowOf issueId).strategy = .escalateHuman →
      ∀ n ∈ ns, n.issueId = issueId → n.kind.defaultAction? ≠ some .decompose) (now : Binary64) :
    w.OnRecord Climbs issueId (proceed ns now w).2 := by
  -- `Climbs` is not kept by breaking up in general.  An issue that is not left to a human can only
  -- become one that is to be broken up, so that `ClimbsBelow` is kept on the way.
  by_cases hhuman : (w.store.workflowOf issueId).strategy = .escalateHuman
  · refine proceed_keeps markAutoProceeded_onRecord (fun n hn haction => ?_) now w
    refine World.onStoreNow_onRecord fun now => Store.setStrategy_onRecord now fun hissue => ?_
    exact absurd haction (hns hhuman n hn hissue)
  · have hbelow : (proceed ns now : Run (World ω) _).Keeps
        (World.OnRecord ClimbsBelow issueId) := by
      refine proceed_keeps markAutoProceeded_onRecord (fun n _ _ => ?_) now
      exact World.onStoreNow_onRecord fun now =>
        Store.setStrategy_onRecord now fun _ x => x.climbsBelow_decompose
    exact (hbelow w hhuman).2

end Escalation

/-- The touchpoints that have timed out by some time. -/
def Store.overdue (s : Store) (now : Binary64) : List Notification :=
  ((s.openTouchpoints none).map Touchpoint.toNotification).filter (·.hasTimedOut now)

/-- Touchpoints that were posted in order need not be put in order. -/
lemma Store.overdue_of_pairwise {s : Store}
    (h : s.touchpoints.Pairwise fun a b => a.postedAt.le b.postedAt = true) (now : Binary64) :
    s.overdue now =
      ((s.touchpoints.filter Touchpoint.isOpen).map Touchpoint.toNotification).filter
        (·.hasTimedOut now) := by
  have hopen : s.openTouchpoints none = s.touchpoints.filter Touchpoint.isOpen := by
    have hall : (s.touchpoints.filter fun t => t.isOpen && true) =
        s.touchpoints.filter Touchpoint.isOpen := by simp
    unfold openTouchpoints
    dsimp only
    rw [hall]
    exact List.mergeSort_of_pairwise (h.filter _)
  rw [overdue, hopen]

/-- An issue that has been left to a human is not proposed to be broken up by a touchpoint that has
timed out. -/
def World.IsTimely (issueId : String) (now : Binary64) (w : World ω) : Prop :=
  (w.store.workflowOf issueId).strategy = .escalateHuman →
    ∀ n ∈ w.store.overdue now, n.issueId = issueId → n.kind.defaultAction? ≠ some .decompose

/-- What has timed out is proceeded with, if the table of touchpoints is there. -/
lemma Escalation.processTimeouts_of_has (e : Escalation ω) (h : w.store.Has [.touchpoints])
    (now? : Option Binary64) :
    e.processTimeouts now? w =
      proceed (w.store.overdue (now?.getD w.clock)) (now?.getD w.clock) w := by
  have hpending : World.onStore (Store.pendingTouchpoints none) w =
      (.ok ((w.store.openTouchpoints none).map Touchpoint.toNotification), w) :=
    World.onStore_of_eq (Store.reading_of_has h _)
  rw [processTimeouts, Run.bind_of_ok (World.now_apply w), Run.bind_of_ok hpending]
  rfl

/-- Proceeding with what has timed out is no step down in good time. -/
lemma Escalation.processTimeouts_climbs (e : Escalation ω) {now? : Option Binary64}
    (h : w.IsTimely issueId (now?.getD w.clock)) :
    w.OnRecord Climbs issueId (e.processTimeouts now? w).2 := by
  by_cases hs : w.store.Has [.touchpoints]
  · rw [e.processTimeouts_of_has hs]
    exact proceed_climbs h _
  · rcases Store.reading_cases [.touchpoints]
      (fun s => (s.openTouchpoints none).map Touchpoint.toNotification) w.store with
      ⟨hs', -⟩ | ⟨fault, -, hread⟩
    · exact absurd hs' hs
    · have hpending : World.onStore (Store.pendingTouchpoints none) w = (.error fault, w) :=
        World.onStore_of_eq hread
      rw [processTimeouts, Run.bind_of_ok (World.now_apply w), Run.bind_of_error hpending]
      exact refl w

/-! ## Governors -/

namespace Governor

variable {g : Governor ω} {b : StoreBacked ω}

/-- Governors do not touch the records of failed cycles. -/
lemma Moves.sameRecords {projects : List Value} {shown : List Issue}
    (h : g.Moves b projects shown w w') : w.SameRecords w' := by
  refine h.imp fun move => ?_
  cases move with
  | quiet same | list _ _ same | decide _ _ _ same => exact same.workflow
  | create _ _ _ creates =>
    cases creates with
    | queued => rfl
    | unqueued => rfl

/-- A scan is no step down, if it begins in good time. -/
lemma IsInstalled.scan_climbs (installed : g.IsInstalled b shelf)
    (htimely : g.escalation.isSome = true → w.IsTimely issueId w.clock) :
    w.OnRecord Climbs issueId (g.scan w).2 := by
  -- The default actions of a scan come first, so that only the world in which it starts matters.
  let R (w w' : World ω) : Prop :=
    (g.escalation.isSome = true → w.IsTimely issueId w.clock) → w.OnRecord Climbs issueId w'
  have hgoesOn : Run.Continues R (World.OnRecord Climbs issueId) :=
    ⟨fun w _ => refl w, fun h h' htimely => trans_of (World.OnRecord Climbs issueId) (h htimely) h'⟩
  have hscan : g.scan.Keeps R := by
    refine installed.scan_keeps_of_moves hgoesOn (fun h => h) ?_ fun e he w htimely => ?_
    · exact fun h => .of_sameRecords h.sameRecords
    · exact e.processTimeouts_climbs (htimely (by rw [he]; rfl))
  exact hscan w htimely

end Governor

/-- Handling an event becomes the record of an issue as following a directive does, if one comes
with it. -/
lemma EventGovernor.process_onRecord {R : WorkflowState → WorkflowState → Prop}
    [IsPreorder WorkflowState R] {g : EventGovernor ω} {b : StoreBacked ω}
    (installed : g.IsInstalled b shelf) {id : String} {e? : Option Event}
    (hfollow : ∀ (e : Escalation ω) d, g.followed? e? w = some (issueId, d) →
      (e.apply issueId d).Keeps (World.OnRecord R issueId)) :
    w.OnRecord R issueId (g.process id e? w).2 := by
  refine process_keeps (S := World.OnRecord R issueId) (.of_imp fun _ _ h => h) ?_ ?_ ?_ ?_
  · intro w v w' hnoted h
    have hsame : w.SameRecords v := (World.LeavesSteering.of_onlySightings hnoted).workflow
    exact trans_of (World.OnRecord R issueId) (.of_sameRecords hsame) h
  · intro escalation _ other d hfollowed
    by_cases hissue : other = issueId
    · subst hissue
      exact hfollow escalation d hfollowed
    · exact escalation.apply_onRecord_of_ne hissue d
  · intro e _
    exact (Governor.handle_moves installed.quiet installed.collaborators e.issue).mono
      fun _ _ h => .of_sameRecords h.sameRecords
  · exact (g.bus.ack_keeps id).mono fun _ _ h =>
      .of_sameRecords (World.SameFacts.of_onlyBus h).workflow

/-! ## Runs -/

namespace Activity

variable {a : Activity ω shelf}

/-- Whatever an activity proceeds with by default has timed out in good time for an issue. -/
def IsTimely (issueId : String) : Activity ω shelf → World ω → Prop
  | scan g _ _, w => g.escalation.isSome = true → w.IsTimely issueId w.clock
  | timeouts _ now?, w => w.IsTimely issueId (now?.getD w.clock)
  | _, _ => True

/-- No activity is a step down, unless a directive is followed for the issue. -/
lemma climbs_after (hnone : ∀ d, a.followed? w ≠ some (issueId, d))
    (htimely : a.IsTimely issueId w) : w.OnRecord Climbs issueId (a.after w) := by
  cases a with
  | scan g b installed => exact installed.scan_climbs htimely
  | event g b installed id e? =>
    exact EventGovernor.process_onRecord installed fun _ d hd => absurd hd (hnone d)
  | failure e installed other identifier summary cost =>
    exact installed.recordFailure_climbs other identifier summary cost w
  | success e other => exact e.recordSuccess_climbs other w
  | directive e installed other d =>
    refine e.apply_onRecord_of_ne (fun hissue => ?_) d w
    subst hissue
    exact hnone d rfl
  | timeouts e now? => exact e.processTimeouts_climbs htimely
  | work op own => exact .of_sameRecords (op.leavesSteering_after own w).workflow
  | elsewhere f leaves => exact .of_sameRecords (leaves w).workflow

end Activity

namespace World

/-- Whatever is proceeded with in a run has timed out in good time for an issue. -/
def IsTimelyFor (issueId : String) (w : World ω) : List (Activity ω shelf) → Prop
  | [] => True
  | a :: as => a.IsTimely issueId w ∧ IsTimelyFor issueId (a.after w) as

/-- No run is a step down for an issue for which no directive is followed. -/
lemma climbs_afterAll {as : List (Activity ω shelf)} (horders : w.orders issueId as = [])
    (htimely : w.IsTimelyFor issueId as) : w.OnRecord Climbs issueId (w.afterAll as) := by
  induction as generalizing w with
  | nil => exact refl w
  | cons a as ih =>
    have hnone : ∀ d ∈ w.orders issueId (a :: as), False := by
      intro d hd
      rw [horders] at hd
      cases hd
    obtain ⟨hfirst, hrest⟩ := (forall_orders_cons (P := fun _ => False)).1 hnone
    have hclimbs : w.OnRecord Climbs issueId (a.after w) :=
      Activity.climbs_after (fun d hd => hfirst d hd) htimely.1
    have horders' : (a.after w).orders issueId as = [] :=
      List.eq_nil_iff_forall_not_mem.2 fun d hd => hrest d hd
    exact trans_of (OnRecord Climbs issueId) hclimbs (ih horders' htimely.2)

/-- As long as no directive is followed for an issue, its strategy is never lowered, if no failed
cycle is counted or the strategy is not ahead of what the next failed cycle calls for. -/
theorem strategy_never_lowered {as : List (Activity ω shelf)}
    (horders : w.orders issueId as = []) (htimely : w.IsTimelyFor issueId as)
    (hcount : ((w.afterAll as).store.workflowOf issueId).cycleCount =
        (w.store.workflowOf issueId).cycleCount ∨
      (w.store.workflowOf issueId).strategy.rank ≤
        (Strategy.forCycles ((w.store.workflowOf issueId).cycleCount + 1)).rank) :
    (w.store.workflowOf issueId).strategy.rank ≤
      ((w.afterAll as).store.workflowOf issueId).strategy.rank := by
  rcases climbs_afterAll horders htimely with ⟨-, hrank⟩ | ⟨hless, hrank⟩
  · exact hrank
  · rcases hcount with hsame | hahead
    · exact absurd hsame (Int.ne_of_gt hless)
    · exact Nat.le_trans hahead hrank

/-- A cycle of an issue fails. -/
def failing (issueId : String) : Activity Unit .shared :=
  .failure .standard Escalation.isInstalled_standard issueId issueId none none

/-- A human orders an issue to be broken up. -/
def breakingUp (issueId : String) : Activity Unit .shared :=
  .directive .standard Escalation.isInstalled_standard issueId
    { kind := .decompose, timestamp := 0 }

/-- Touchpoints are looked through after a time. -/
def lookingThrough (seconds : Nat) : Activity Unit .shared :=
  .timeouts .standard (some (.ofInt seconds))

/-- What may happen between two failed cycles of an issue. -/
def betweenFailures : List (Activity Unit .shared) :=
  [.poll "a", failing "a", lookingThrough 20000, failing "a", .success .standard "a",
    breakingUp "b"]

theorem strategy_never_lowered_betweenFailures :
    ((fresh.afterAll [failing "a"]).store.workflowOf "a").strategy = .contextEnriched ∧
      ((fresh.afterAll [failing "a"]).store.workflowOf "a").strategy.rank ≤
        (((fresh.afterAll [failing "a"]).afterAll betweenFailures).store.workflowOf
          "a").strategy.rank := by
  have horders : (fresh.afterAll [failing "a"]).orders "a" betweenFailures = [] := by
    decide +kernel
  have hbelow : (((failing "a").after (Activity.after (.poll "a")
      (fresh.afterAll [failing "a"]))).store.workflowOf "a").strategy ≠ .escalateHuman := by
    decide +kernel
  have htimely : (fresh.afterAll [failing "a"]).IsTimelyFor "a" betweenFailures := by
    refine ⟨trivial, trivial, ?_, trivial, trivial, trivial, trivial⟩
    intro hhuman
    exact absurd hhuman hbelow
  have hahead : ((fresh.afterAll [failing "a"]).store.workflowOf "a").strategy.rank ≤
      (Strategy.forCycles
        (((fresh.afterAll [failing "a"]).store.workflowOf "a").cycleCount + 1)).rank := by
    decide +kernel
  exact ⟨by decide +kernel, strategy_never_lowered horders htimely (.inr hahead)⟩

/-- The world after four failed cycles of an issue, which have left it to a human. -/
def afterFourFailures : World Unit := fresh.afterAll (List.replicate 4 (failing "a"))

/-- The proposal of the third failed cycle times out after the fourth one, and the issue is to be
broken up. -/
lemma strategy_lookingThrough :
    ((afterFourFailures.afterAll [lookingThrough 8000]).store.workflowOf "a").strategy =
      .decompose := by
  have htable : afterFourFailures.store.Has [.touchpoints] := by
    have hmissing : afterFourFailures.store.missing = [] := by decide +kernel
    intro t _
    rw [hmissing]
    exact List.not_mem_nil
  have hposted : afterFourFailures.store.touchpoints.Pairwise
      fun a b => a.postedAt.le b.postedAt = true := by
    decide +kernel
  have hafter : afterFourFailures.afterAll [lookingThrough 8000] =
      (Escalation.standard.processTimeouts (some (.ofInt 8000)) afterFourFailures).2 := rfl
  rw [hafter, Escalation.standard.processTimeouts_of_has htable,
    Store.overdue_of_pairwise hposted]
  decide +kernel

/-- A strategy that has been ordered is lowered by the next failed cycle.  One that is not ahead of
the count can be lowered, too, by a proposal that times out late. -/
theorem not_never_lowered :
    ¬ (∀ (as as' : List (Activity Unit .shared)) (issueId : String),
        (fresh.afterAll as).orders issueId as' = [] →
        ((fresh.afterAll as).store.workflowOf issueId).strategy.rank ≤
          (((fresh.afterAll as).afterAll as').store.workflowOf issueId).strategy.rank) ∧
      ¬ (∀ (as as' : List (Activity Unit .shared)) (issueId : String),
        (fresh.afterAll as).orders issueId as' = [] →
        ((fresh.afterAll as).store.workflowOf issueId).strategy.rank ≤ (Strategy.forCycles
          (((fresh.afterAll as).store.workflowOf issueId).cycleCount + 1)).rank →
        ((fresh.afterAll as).store.workflowOf issueId).strategy.rank ≤
          (((fresh.afterAll as).afterAll as').store.workflowOf issueId).strategy.rank) := by
  constructor
  · intro h
    have hlowered := h [breakingUp "a"] [failing "a"] "a" (by decide +kernel)
    revert hlowered
    decide +kernel
  · intro h
    have hlowered :=
      h (List.replicate 4 (failing "a")) [lookingThrough 8000] "a" rfl (by decide +kernel)
    have hworld : fresh.afterAll (List.replicate 4 (failing "a")) = afterFourFailures := rfl
    rw [hworld, strategy_lookingThrough] at hlowered
    revert hlowered
    decide +kernel

end World

end IssueDispatch
