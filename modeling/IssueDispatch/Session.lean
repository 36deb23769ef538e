import IssueDispatch.Value

/-!
# Sessions

A session is one run of an agent on one issue.  It is recorded as pending when its work is queued,
becomes claimed when a worker takes the work, and goes on from there until it is completed, failed
or stopped.
-/

namespace IssueDispatch

/-- How far a session has come.  A record may carry a name that is no status. -/
inductive SessionStatus where
  | pending
  | claimed
  | running
  | finalizing
  | completed
  | failed
  | stopped
  | other (name : String)
deriving DecidableEq, Repr

namespace SessionStatus

/-- The name of a status. -/
def name : SessionStatus → String
  | pending => "pending"
  | claimed => "claimed"
  | running => "running"
  | finalizing => "finalizing"
  | completed => "completed"
  | failed => "failed"
  | stopped => "stopped"
  | other name => name

/-- The status of a name. -/
def ofName (name : String) : SessionStatus :=
  if name = "pending" then pending
  else if name = "claimed" then claimed
  else if name = "running" then running
  else if name = "finalizing" then finalizing
  else if name = "completed" then completed
  else if name = "failed" then failed
  else if name = "stopped" then stopped
  else other name

@[simp] theorem name_ofName (s : String) : (ofName s).name = s := by
  unfold ofName
  repeat' split
  all_goals simp_all [name]

/-- Whether an agent is queued for the issue or working on it. -/
def isActive : SessionStatus → Bool
  | pending | claimed | running | finalizing => true
  | _ => false

/-- Whether the session is over. -/
def isTerminal : SessionStatus → Bool
  | completed | failed | stopped => true
  | _ => false

/-- Whether a status is one of the known ones. -/
def isKnown : SessionStatus → Bool
  | other _ => false
  | _ => true

/-- Whether the work of the session has to be queued again when the queue is rebuilt. -/
def isUnfinished : SessionStatus → Bool
  | pending | claimed | running => true
  | _ => false

theorem isKnown_eq (s : SessionStatus) : s.isKnown = (s.isActive || s.isTerminal) := by
  cases s <;> rfl

theorem isActive_of_isUnfinished {s : SessionStatus} (h : s.isUnfinished = true) :
    s.isActive = true := by
  cases s <;> simp_all [isUnfinished, isActive]

end SessionStatus

/-- The record of a session.  A total cost that is NaN is kept as none. -/
structure Session where
  sessionId : String
  issueId : String
  issueIdentifier : Option String := none
  status : SessionStatus := .pending
  workType : Option String := none
  projectName : Option String := none
  workerId : Option String := none
  priority : Option Int := none
  queuedAt : Option Binary64 := none
  claimedAt : Option Binary64 := none
  providerSessionId : Option String := none
  totalCost : Binary64 := 0
  inputTokens : Number := 0
  outputTokens : Number := 0
  error : Option String := none
  createdAt : Binary64
  updatedAt : Binary64
deriving DecidableEq

/-- The fields of a session. -/
def Session.toFields (s : Session) : List (String × Value) := [
  ("session_id", .str s.sessionId),
  ("issue_id", .str s.issueId),
  ("issue_identifier", .ofText? s.issueIdentifier),
  ("status", .str s.status.name),
  ("work_type", .ofText? s.workType),
  ("project_name", .ofText? s.projectName),
  ("worker_id", .ofText? s.workerId),
  ("priority", .ofInt? s.priority),
  ("queued_at", .ofBinary64? s.queuedAt),
  ("claimed_at", .ofBinary64? s.claimedAt),
  ("provider_session_id", .ofText? s.providerSessionId),
  ("total_cost_usd", if s.totalCost.isNaN then .null else .float s.totalCost),
  ("input_tokens", .ofNumber s.inputTokens),
  ("output_tokens", .ofNumber s.outputTokens),
  ("error", .ofText? s.error),
  ("created_at", .float s.createdAt),
  ("updated_at", .float s.updatedAt)]

end IssueDispatch
