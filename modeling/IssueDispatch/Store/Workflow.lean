import IssueDispatch.Store.Basic

/-!
# Stored records of failed cycles

One record for each issue that has ever failed since its last fresh start.  An operation that
changes a record reads it in one transaction and writes it in another; without a record it starts
from an empty one.
-/

namespace IssueDispatch

namespace Store

/-- The record of an issue. -/
def getWorkflow (issueId : String) : Run Store (Option WorkflowState) :=
  reading [.workflowState] fun s => s.workflow.find? fun w => w.issueId == issueId

/-- Writes a record in place of the one its issue had, and gives it as written. -/
def saveWorkflow (w : WorkflowState) (now : Binary64) : Run Store WorkflowState :=
  changing [.workflowState] fun s =>
    let w := { w with updatedAt := now }
    (w, { s with workflow := (s.workflow.filter fun x => x.issueId != w.issueId) ++ [w] })

/-- Changes the record of an issue. -/
def changeWorkflow (issueId : String) (f : WorkflowState → WorkflowState) (now : Binary64) :
    Run Store WorkflowState := do
  saveWorkflow (f ((← getWorkflow issueId).getD { issueId })) now

/-- Counts one more failed cycle. -/
def countFailure (issueId : String) (now : Binary64) : Run Store WorkflowState :=
  changeWorkflow issueId WorkflowState.countFailure now

/-- Adds the summary of a failure. -/
def addFailureSummary (issueId summary : String) (now : Binary64) : Run Store WorkflowState :=
  changeWorkflow issueId (·.addSummary summary) now

/-- Sets the strategy. -/
def setStrategy (issueId : String) (strategy : Strategy) (now : Binary64) :
    Run Store WorkflowState :=
  changeWorkflow issueId (fun w => { w with strategy }) now

/-- The strategy on record. -/
def getStrategy (issueId : String) : Run Store (Option Strategy) := do
  return (← getWorkflow issueId).map WorkflowState.strategy

/-- Removes the record of an issue. -/
def clearWorkflow (issueId : String) : Run Store Unit :=
  changing [.workflowState] fun s =>
    ((), { s with workflow := s.workflow.filter fun w => w.issueId != issueId })

/-- Notes that quality assurance has failed. -/
def markQaFailed (issueId : String) (now : Binary64) : Run Store Unit := do
  let _ ← changeWorkflow issueId (fun w => { w with qaFailedAt := some now }) now

/-- Forgets that quality assurance has failed, if that is on record. -/
def clearQaFailed (issueId : String) (now : Binary64) : Run Store Unit := do
  if let some w ← getWorkflow issueId then
    if w.qaFailedAt.isSome then
      let _ ← saveWorkflow { w with qaFailedAt := none } now

/-- Whether quality assurance failed less than a cooldown ago. -/
def didJustFail (issueId : String) (cooldown : Value) (now : Binary64) : Run Store Bool := do
  match ← getWorkflow issueId with
  | none => return false
  | some w => Run.ofExcept (w.didJustFail cooldown now)

end Store

end IssueDispatch
