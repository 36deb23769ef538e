import IssueDispatch.Proofs.Governor.Activity

/-!
# Failed cycles

What a failed cycle does to the record of its issue.  First it is noted when quality assurance
failed and why, which leaves the count and the strategy alone; then the cycle is counted, and the
strategy becomes the one that the count calls for.  What is done in response, a hold and a
touchpoint, does not touch the record any more, whether it succeeds or not.
-/

namespace IssueDispatch

variable {ω α : Type} {shelf : OverrideShelf} {issueId : String} {w w' : World ω}

namespace WorkflowState

/-- Notes why a cycle failed, if anybody says why. -/
def noteSummary (x : WorkflowState) (summary : Option String) (now : Binary64) : WorkflowState :=
  match summary with
  | none | some "" => x
  | some summary => { x.addSummary summary with updatedAt := now }

/-- Notes when a cycle failed and why. -/
def noteFailure (x : WorkflowState) (summary : Option String) (now : Binary64) : WorkflowState :=
  { x with qaFailedAt := some now, updatedAt := now }.noteSummary summary now

/-- The record after one more failed cycle. -/
def fail (x : WorkflowState) (summary : Option String) (now : Binary64) : WorkflowState :=
  { (x.noteFailure summary now).countFailure with updatedAt := now }

@[simp] lemma noteSummary_cycleCount (x : WorkflowState) (summary : Option String)
    (now : Binary64) : (x.noteSummary summary now).cycleCount = x.cycleCount := by
  unfold noteSummary
  split <;> rfl

@[simp] lemma noteSummary_qaFailedAt (x : WorkflowState) (summary : Option String)
    (now : Binary64) : (x.noteSummary summary now).qaFailedAt = x.qaFailedAt := by
  unfold noteSummary
  split <;> rfl

@[simp] lemma noteFailure_cycleCount (x : WorkflowState) (summary : Option String)
    (now : Binary64) : (x.noteFailure summary now).cycleCount = x.cycleCount :=
  noteSummary_cycleCount ..

end WorkflowState

namespace World

/-- The records of failed cycles have not changed. -/
def SameRecords (w w' : World ω) : Prop := w'.store.workflow = w.store.workflow

instance : IsPreorder (World ω) SameRecords where
  refl _ := rfl
  trans _ _ _ h h' := Eq.trans h' h

lemma SameRecords.workflowOf (h : w.SameRecords w') (issueId : String) :
    w'.store.workflowOf issueId = w.store.workflowOf issueId := by
  unfold Store.workflowOf
  rw [show w'.store.workflow = w.store.workflow from h]

lemma SameRecords.of_onlyOutside (h : w.OnlyOutside w') : w.SameRecords w' :=
  (OnlyLapsed.of_onlyOutside h).workflow

lemma SameRecords.of_onlyOverrides (h : w.OnlyOverrides w') : w.SameRecords w' := by
  rw [SameRecords, h.store]

/-- Only records of failed cycles have changed, and that of an issue as a function says. -/
structure Rewrites (issueId : String) (f : WorkflowState → WorkflowState) (w w' : World ω) :
    Prop where
  frame : w' = { w with store := { w.store with workflow := w'.store.workflow } }
  record : w'.store.workflowOf issueId = f (w.store.workflowOf issueId)

namespace Rewrites

variable {f g : WorkflowState → WorkflowState}

protected lemma refl (issueId : String) (w : World ω) : Rewrites issueId id w w := ⟨rfl, rfl⟩

lemma trans {v : World ω} (h : Rewrites issueId f w v) (h' : Rewrites issueId g v w') :
    Rewrites issueId (g ∘ f) w w' := by
  constructor
  · rw [h'.frame, h.frame]
  · rw [h'.record, h.record]
    rfl

lemma onlyTracks (h : Rewrites issueId f w w') : w.OnlyTracks w' := by
  constructor
  · rw [Store.OnlyTracks, h.frame]
  · rw [h.frame]

lemma has {ts : List Table} (h : Rewrites issueId f w w') (hs : w.store.Has ts) :
    w'.store.Has ts := by
  intro t ht
  rw [h.frame]
  exact hs t ht

end Rewrites

end World

namespace Escalation

variable (e : Escalation ω)

/-! ## Noting a failure -/

/-- Where there is a table for it, a change to the record is made. -/
lemma exists_changeWorkflow (h : w.store.Has [.workflowState]) {f : WorkflowState → WorkflowState}
    (hkey : ∀ x, (f x).issueId = x.issueId) (issueId : String) (now : Binary64) :
    ∃ x s, Store.changeWorkflow issueId f now w.store = (.ok x, s) ∧
      w.Rewrites issueId (fun x => { f x with updatedAt := now }) { w with store := s } := by
  have hissue : (f (w.store.workflowOf issueId)).issueId = issueId := by
    rw [hkey, Store.workflowOf_issueId]
  refine ⟨_, _, Store.changeWorkflow_of_has h issueId f now, rfl, ?_⟩
  dsimp only
  rw [Store.workflowOf_withWorkflow, if_pos hissue]

lemma exists_markQaFailed (h : w.store.Has [.workflowState]) (issueId : String)
    (now : Binary64) :
    ∃ v, World.onStore (Store.markQaFailed issueId now) w = (.ok (), v) ∧
      w.Rewrites issueId (fun x => { x with qaFailedAt := some now, updatedAt := now }) v := by
  obtain ⟨x, s, hchange, hrewrites⟩ := exists_changeWorkflow h
    (f := fun x => { x with qaFailedAt := some now }) (fun _ => rfl) issueId now
  refine ⟨_, World.onStore_of_eq ?_, hrewrites⟩
  rw [Store.markQaFailed, Run.bind_of_ok hchange]
  rfl

lemma exists_noteSummary (h : w.store.Has [.workflowState]) (issueId : String)
    (summary : Option String) (now : Binary64) :
    ∃ v, noteSummary issueId summary now w = (.ok (), v) ∧
      w.Rewrites issueId (·.noteSummary summary now) v := by
  unfold noteSummary
  split
  · exact ⟨w, rfl, .refl issueId w⟩
  · exact ⟨w, rfl, .refl issueId w⟩
  · rename_i summary hsome
    obtain ⟨x, s, hchange, hrewrites⟩ := exists_changeWorkflow h
      (f := fun x => x.addSummary summary) (fun _ => rfl) issueId now
    have hadd : World.onStore (Store.addFailureSummary issueId summary now) w =
        (.ok x, { w with store := s }) := World.onStore_of_eq hchange
    refine ⟨_, Run.bind_of_ok hadd, hrewrites.frame, ?_⟩
    rw [hrewrites.record]
    unfold WorkflowState.noteSummary
    split
    · rename_i hnone
      cases hnone
    · rename_i hempty
      exact absurd (Option.some.inj hempty) hsome
    · rename_i told htold
      obtain rfl := Option.some.inj htold
      rfl

/-- Where there is a table for it, a failed cycle is noted before it is counted. -/
lemma exists_noted (h : w.store.Has [.workflowState]) (issueId identifier : String)
    (summary : Option String) (cost : Option Binary64) :
    ∃ v, w.Rewrites issueId (·.noteFailure summary w.clock) v ∧
      e.recordFailure issueId identifier summary cost w =
        e.escalate issueId identifier cost w.clock v := by
  obtain ⟨v, hmark, hmarked⟩ := exists_markQaFailed h issueId w.clock
  obtain ⟨u, hnote, hnoted⟩ := exists_noteSummary (hmarked.has h) issueId summary w.clock
  refine ⟨u, hmarked.trans hnoted, ?_⟩
  rw [recordFailure_eq, Run.bind_of_ok (World.now_apply w), Run.bind_of_ok hmark,
    Run.bind_of_ok hnote]

/-- Without a table for it nothing is noted at all. -/
lemma recordFailure_of_not_has (h : ¬ w.store.Has [.workflowState]) (issueId identifier : String)
    (summary : Option String) (cost : Option Binary64) :
    ∃ fault, e.recordFailure issueId identifier summary cost w = (.error fault, w) := by
  rcases Store.changeWorkflow_cases issueId (fun x => { x with qaFailedAt := some w.clock }) w.clock
    w.store with ⟨hs, -⟩ | ⟨fault, -, hchange⟩
  · exact absurd hs h
  · have hmark : World.onStore (Store.markQaFailed issueId w.clock) w = (.error fault, w) :=
      World.onStore_of_eq (Run.bind_of_error hchange)
    refine ⟨fault, ?_⟩
    rw [recordFailure_eq, Run.bind_of_ok (World.now_apply w), Run.bind_of_error hmark]

/-- The world after some failed cycles of an issue, one after the other. -/
def afterFailures (issueId : String) : Nat → World ω → World ω
  | 0, w => w
  | n + 1, w => (e.recordFailure issueId issueId none none (afterFailures issueId n w)).2

/-! ## Counting it -/

/-- The record of an issue after one more failed cycle. -/
def counted (w : World ω) (issueId : String) (now : Binary64) : WorkflowState :=
  { (w.store.workflowOf issueId).countFailure with updatedAt := now }

/-- Where there is a table for it, a failed cycle is counted before there is any response. -/
lemma escalate_of_has (h : w.store.Has [.workflowState]) (issueId identifier : String)
    (cost : Option Binary64) (now : Binary64) :
    e.escalate issueId identifier cost now w =
      e.respond issueId identifier cost now (counted w issueId now)
        { w with store := w.store.withWorkflow (counted w issueId now) } := by
  have hcount : World.onStore (Store.countFailure issueId now) w =
      (.ok (counted w issueId now),
        { w with store := w.store.withWorkflow (counted w issueId now) }) :=
    World.onStore_of_eq (Store.changeWorkflow_of_has h issueId WorkflowState.countFailure now)
  rw [escalate, Run.bind_of_ok hcount]

variable {e}

/-- The response to a failed cycle leaves the records alone. -/
lemma IsInstalled.respond_sameRecords (he : e.IsInstalled shelf) (issueId identifier : String)
    (cost : Option Binary64) (now : Binary64) (state : WorkflowState) :
    (e.respond issueId identifier cost now state).Keeps World.SameRecords := by
  refine e.respond_keeps (fun now => ?_) (fun n w => ?_) (fun post hpost body => ?_) identifier
    cost now state
  · exact (e.shelf.set_keeps issueId _ none).mono fun _ _ => .of_onlyOverrides
  · exact (Store.saveTouchpoint_onlyTouchpoints issueId n w.store).workflow
  · exact (he.postComment post hpost issueId body).mono fun _ _ => .of_onlyOutside

/-- Whatever goes wrong afterwards, a failed cycle has been noted and counted. -/
lemma IsInstalled.record_recordFailure (he : e.IsInstalled shelf)
    (h : w.store.Has [.workflowState]) (issueId identifier : String) (summary : Option String)
    (cost : Option Binary64) :
    (e.recordFailure issueId identifier summary cost w).2.store.workflowOf issueId =
      (w.store.workflowOf issueId).fail summary w.clock := by
  obtain ⟨v, hnoted, hrecord⟩ := e.exists_noted h issueId identifier summary cost
  have hkept := he.respond_sameRecords issueId identifier cost w.clock
    (counted v issueId w.clock) { v with store := v.store.withWorkflow (counted v issueId w.clock) }
  have hissue : (counted v issueId w.clock).issueId = issueId :=
    Store.workflowOf_issueId v.store issueId
  rw [hrecord, e.escalate_of_has (hnoted.has h), hkept.workflowOf]
  dsimp only
  rw [Store.workflowOf_withWorkflow, if_pos hissue, counted, hnoted.record, WorkflowState.fail]

/-- A failed cycle raises the count by one and sets the strategy that the new count calls for, even
if something goes wrong afterwards. -/
lemma IsInstalled.stage_recordFailure (he : e.IsInstalled shelf)
    (h : w.store.Has [.workflowState]) (issueId identifier : String) (summary : Option String)
    (cost : Option Binary64) :
    ((e.recordFailure issueId identifier summary cost w).2.store.workflowOf issueId).cycleCount =
        (w.store.workflowOf issueId).cycleCount + 1 ∧
      ((e.recordFailure issueId identifier summary cost w).2.store.workflowOf issueId).strategy =
        .forCycles ((w.store.workflowOf issueId).cycleCount + 1) := by
  rw [he.record_recordFailure h]
  simp [WorkflowState.fail, WorkflowState.countFailure]

end Escalation

end IssueDispatch
