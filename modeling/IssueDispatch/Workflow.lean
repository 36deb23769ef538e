import IssueDispatch.Settings
import IssueDispatch.Strategy

/-!
# Failed cycles

What is on record about the failed cycles of an issue: how many there were, the strategy they call
for or that was ordered, why they failed, and when quality assurance failed last.
-/

namespace IssueDispatch

/-- The record of the failed cycles of an issue. -/
structure WorkflowState where
  issueId : String
  cycleCount : Int := 0
  strategy : Strategy := .normal
  failureSummary : Option String := none
  qaFailedAt : Option Binary64 := none
  updatedAt : Binary64 := 0
deriving DecidableEq

namespace WorkflowState

/-- What stands between the summaries of successive failures. -/
def summarySeparator : String := "\n\n---\n\n"

/-- Counts one more failed cycle and takes the strategy it calls for. -/
def countFailure (w : WorkflowState) : WorkflowState :=
  { w with cycleCount := w.cycleCount + 1, strategy := .forCycles (w.cycleCount + 1) }

/-- Adds the summary of a failure to those on record. -/
def addSummary (w : WorkflowState) (summary : String) : WorkflowState :=
  { w with failureSummary := some (match w.failureSummary with
    | none | some "" => summary
    | some earlier => earlier ++ summarySeparator ++ summary) }

/-- Whether the last failure is less than a cooldown ago.  A cooldown that is no number is a fault
as soon as there is a failure to compare it with. -/
def didJustFail (w : WorkflowState) (cooldown : Value) (now : Binary64) : Except Fault Bool :=
  match w.qaFailedAt with
  | none => .ok false
  | some failedAt =>
    match cooldown.number? with
    | some bound => .ok ((Number.float (now - failedAt)).lt bound)
    | none =>
      .error (.wrongKind ("'<' not supported between instances of 'float' and '" ++
        cooldown.kindName ++ "'"))

/-- The fields of the record. -/
def toFields (w : WorkflowState) : List (String × Value) := [
  ("issue_id", .str w.issueId),
  ("cycle_count", .int w.cycleCount),
  ("strategy", .str w.strategy.name),
  ("failure_summary", .ofText? w.failureSummary),
  ("qa_failed_at", .ofBinary64? w.qaFailedAt),
  ("updated_at", .float w.updatedAt)]

end WorkflowState

end IssueDispatch
