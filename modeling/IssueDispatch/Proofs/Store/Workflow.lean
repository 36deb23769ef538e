import IssueDispatch.Proofs.Store.Transactions
import IssueDispatch.Store.Touchpoints
import IssueDispatch.Store.Workflow

/-!
# Records of failed cycles

An operation that changes the record of an issue reads it in one transaction and writes it in
another one.  Both need the same table and nothing happens in between, so the two come to one change
of the store, `Store.withWorkflow`, or to none at all.

Nothing that is done about failed cycles and touchpoints changes anything else in the store:
`Store.OnlyTracks`.
-/

namespace IssueDispatch

namespace Store

variable {s : Store} {issueId : String}

/-- The record of the failed cycles of an issue; that of an issue that never failed is empty. -/
def workflowOf (s : Store) (issueId : String) : WorkflowState :=
  (s.workflow.find? fun x => x.issueId == issueId).getD { issueId }

/-- The store with a record in place of the one its issue had. -/
def withWorkflow (s : Store) (x : WorkflowState) : Store :=
  { s with workflow := (s.workflow.filter fun y => y.issueId != x.issueId) ++ [x] }

@[simp] lemma workflowOf_issueId (s : Store) (issueId : String) :
    (s.workflowOf issueId).issueId = issueId := by
  rw [workflowOf]
  rcases hfind : s.workflow.find? fun x => x.issueId == issueId with - | x
  · rw [hfind]
    rfl
  · rw [hfind]
    simpa using List.find?_some hfind

/-- A record that is written is the one on record from then on; those of other issues stay. -/
lemma workflowOf_withWorkflow (s : Store) (x : WorkflowState) (issueId : String) :
    (s.withWorkflow x).workflowOf issueId =
      if x.issueId = issueId then x else s.workflowOf issueId := by
  rw [workflowOf, withWorkflow, find?_replaceKey WorkflowState.issueId]
  split
  · rfl
  · rfl

/-- A change is made to the record of its issue, and dated. -/
lemma changeWorkflow_of_has (h : s.Has [.workflowState]) (issueId : String)
    (f : WorkflowState → WorkflowState) (now : Binary64) :
    changeWorkflow issueId f now s =
      (.ok { f (s.workflowOf issueId) with updatedAt := now },
        s.withWorkflow { f (s.workflowOf issueId) with updatedAt := now }) := by
  have hread : getWorkflow issueId s =
      (.ok (s.workflow.find? fun x => x.issueId == issueId), s) := reading_of_has h _
  rw [changeWorkflow, Run.bind_of_ok hread]
  exact changing_of_has h _

/-- A change is made, or a missing table is reported and nothing is changed. -/
lemma changeWorkflow_cases (issueId : String) (f : WorkflowState → WorkflowState) (now : Binary64)
    (s : Store) :
    (s.Has [.workflowState] ∧ changeWorkflow issueId f now s =
        (.ok { f (s.workflowOf issueId) with updatedAt := now },
          s.withWorkflow { f (s.workflowOf issueId) with updatedAt := now })) ∨
      ∃ e, ¬ s.Has [.workflowState] ∧ changeWorkflow issueId f now s = (.error e, s) := by
  by_cases h : s.Has [.workflowState]
  · exact Or.inl ⟨h, changeWorkflow_of_has h issueId f now⟩
  · rcases reading_cases [.workflowState]
      (fun s => s.workflow.find? fun x => x.issueId == issueId) s with ⟨hs, -⟩ | ⟨e, -, hread⟩
    · exact absurd hs h
    · exact Or.inr ⟨e, h, Run.bind_of_error hread⟩

/-- That quality assurance has failed is forgotten in the record of an issue, or nothing is
changed. -/
lemma clearQaFailed_cases (issueId : String) (now : Binary64) (s : Store) :
    (clearQaFailed issueId now s).2 = s ∨ (clearQaFailed issueId now s).2 =
      s.withWorkflow { s.workflowOf issueId with qaFailedAt := none, updatedAt := now } := by
  rcases reading_cases [.workflowState] (fun s => s.workflow.find? fun x => x.issueId == issueId) s
    with ⟨hs, hread⟩ | ⟨e, -, hread⟩
  · have hget : getWorkflow issueId s =
        (.ok (s.workflow.find? fun x => x.issueId == issueId), s) := hread
    rw [clearQaFailed, Run.bind_of_ok hget, workflowOf]
    rcases hfind : s.workflow.find? (fun x => x.issueId == issueId) with - | x
    · rw [hfind]
      exact Or.inl rfl
    · rw [hfind]
      dsimp only
      split
      · have hsave : saveWorkflow { x with qaFailedAt := none } now s =
            (.ok { x with qaFailedAt := none, updatedAt := now },
              s.withWorkflow { x with qaFailedAt := none, updatedAt := now }) :=
          changing_of_has hs _
        rw [Run.bind_of_ok hsave]
        exact Or.inr rfl
      · exact Or.inl rfl
  · have hget : getWorkflow issueId s = (.error e, s) := hread
    rw [clearQaFailed, Run.bind_of_error hget]
    exact Or.inl rfl

/-! ## What else is on record -/

/-- Nothing has changed but the records of failed cycles and the touchpoints. -/
def OnlyTracks (s s' : Store) : Prop :=
  s' = { s with
    workflow := s'.workflow, touchpoints := s'.touchpoints, lastTouchpoint := s'.lastTouchpoint }

instance : IsPreorder Store OnlyTracks where
  refl _ := rfl
  trans s t u h h' := by
    rw [OnlyTracks, h', h]

lemma changeWorkflow_onlyTracks (issueId : String) (f : WorkflowState → WorkflowState)
    (now : Binary64) : (changeWorkflow issueId f now).Keeps OnlyTracks :=
  (reading_keeps _ _).bind fun _ => changing_keeps _ fun _ => rfl

lemma markQaFailed_onlyTracks (issueId : String) (now : Binary64) :
    (markQaFailed issueId now).Keeps OnlyTracks :=
  (changeWorkflow_onlyTracks _ _ _).bind fun _ => .pure _

lemma clearQaFailed_onlyTracks (issueId : String) (now : Binary64) :
    (clearQaFailed issueId now).Keeps OnlyTracks := by
  refine (reading_keeps _ _).bind fun x? => ?_
  cases x? with
  | none => exact .pure ()
  | some x =>
    have hsave : (saveWorkflow { x with qaFailedAt := none } now).Keeps OnlyTracks :=
      changing_keeps _ fun _ => rfl
    exact .ite (hsave.bind fun _ => .pure ()) (.pure ())

/-! ## Touchpoints -/

/-- Nothing has changed but the touchpoints. -/
def OnlyTouchpoints (s s' : Store) : Prop :=
  s' = { s with touchpoints := s'.touchpoints, lastTouchpoint := s'.lastTouchpoint }

instance : IsPreorder Store OnlyTouchpoints where
  refl _ := rfl
  trans s t u h h' := by
    rw [OnlyTouchpoints, h', h]

lemma OnlyTracks.of_onlyTouchpoints {s s' : Store} (h : s.OnlyTouchpoints s') :
    s.OnlyTracks s' := by
  rw [OnlyTracks, h]

lemma OnlyTouchpoints.workflow {s s' : Store} (h : s.OnlyTouchpoints s') :
    s'.workflow = s.workflow := by
  rw [h]

lemma markResponded_onlyTouchpoints (issueId : String) (time : Binary64) :
    (markResponded issueId time).Keeps OnlyTouchpoints :=
  changing_keeps _ fun _ => rfl

lemma markAutoProceeded_onlyTouchpoints (id : Int) (time : Binary64) :
    (markAutoProceeded id time).Keeps OnlyTouchpoints := by
  refine Transaction.Keeps.atomically
    (Transaction.Keeps.bind (.of_eq fun _ _ _ => eq_of_requireTable) fun _ => ?_)
  refine Transaction.Keeps.bind (.of_eq fun _ _ _ => eq_of_requireInteger) fun _ => ?_
  exact Transaction.modify_keeps fun _ => rfl

lemma saveTouchpoint_onlyTouchpoints (issueId : String) (n : Notification) :
    (saveTouchpoint issueId n).Keeps OnlyTouchpoints := by
  refine Transaction.Keeps.atomically
    (Transaction.Keeps.bind (.of_eq fun _ _ _ => eq_of_requireTable) fun _ => ?_)
  by_cases htime : n.postedAt.isNaN = true
  · rw [if_pos htime]
    intro s a s' h
    cases h
  · rw [if_neg htime]
    exact Transaction.modifyGet_keeps fun _ => rfl

end Store

end IssueDispatch
