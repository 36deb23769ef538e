import IssueDispatch.Issue

/-!
# Units of work

A `Work` is what is queued for a worker: one session of an agent on one issue.  The session id is
the token by which the work is claimed.
-/

namespace IssueDispatch

/-- A unit of work.  The lower the priority, the sooner it is handed out. -/
structure Work where
  sessionId : String
  issueId : String
  issueIdentifier : String
  priority : Int
  queuedAt : Binary64
  workType : String
  projectName : Option String := none
  prompt : Option String := none
  providerSessionId : Option String := none
  sourceSessionId : Option String := none
deriving DecidableEq

namespace Work

/-- Checks and completes the fields of a unit of work. -/
def canonicalFields (v : Value) : Except Fault (List (String × Value)) := do
  let fields ← v.asObject
  let sessionId ← Value.require fields "session_id"
  let issueId ← Value.require fields "issue_id"
  let issueIdentifier ← Value.require fields "issue_identifier"
  let priority ← (← Value.require fields "priority").toInt
  let queuedAt ← (← Value.require fields "queued_at").toBinary64
  let workType ← Value.require fields "work_type"
  return [
    ("session_id", sessionId),
    ("issue_id", issueId),
    ("issue_identifier", issueIdentifier),
    ("priority", .int priority),
    ("queued_at", .float queuedAt),
    ("work_type", workType),
    ("project_name", Value.getD fields "project_name"),
    ("prompt", Value.getD fields "prompt"),
    ("provider_session_id", Value.getD fields "provider_session_id"),
    ("source_session_id", Value.getD fields "source_session_id")]

/-- Reads a unit of work. -/
def ofValue (v : Value) : Except Fault Work := do
  let fields ← (Value.ofFields (← canonicalFields v)).asObject
  let text (name : String) : Except Fault String := (Value.getD fields name).asText
  let text? (name : String) : Except Fault (Option String) := (Value.getD fields name).asText?
  return {
    sessionId := ← text "session_id"
    issueId := ← text "issue_id"
    issueIdentifier := ← text "issue_identifier"
    priority := ← (Value.getD fields "priority").toInt
    queuedAt := ← (Value.getD fields "queued_at").toBinary64
    workType := ← text "work_type"
    projectName := ← text? "project_name"
    prompt := ← text? "prompt"
    providerSessionId := ← text? "provider_session_id"
    sourceSessionId := ← text? "source_session_id" }

/-- The fields of a unit of work, those without a value included. -/
def toFields (w : Work) : List (String × Value) := [
  ("session_id", .str w.sessionId),
  ("issue_id", .str w.issueId),
  ("issue_identifier", .str w.issueIdentifier),
  ("priority", .int w.priority),
  ("queued_at", .float w.queuedAt),
  ("work_type", .str w.workType),
  ("project_name", .ofText? w.projectName),
  ("prompt", .ofText? w.prompt),
  ("provider_session_id", .ofText? w.providerSessionId),
  ("source_session_id", .ofText? w.sourceSessionId)]

end Work

end IssueDispatch
