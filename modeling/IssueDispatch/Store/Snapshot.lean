import IssueDispatch.Store.Rows

/-!
# Snapshots of a store

A snapshot is one value that holds a whole store, so that it can be written to a file:
`Store.snapshot` takes it and `Store.ofSnapshot` reads it.  It lists the rows of every table that is
not missing, and the last numbers given to touchpoints and events.
-/

namespace IssueDispatch

/-! ### Reading fields -/

namespace Value

/-- The text in a field. -/
def textField (row : Fields) (name : String) : Except Fault String := (getD row name).asText

/-- The text in a field, if there is any. -/
def textField? (row : Fields) (name : String) : Except Fault (Option String) :=
  (getD row name).asText?

/-- The number in a field. -/
def realField (row : Fields) (name : String) : Except Fault Binary64 := (getD row name).toBinary64

/-- The number in a field, if there is any. -/
def realField? (row : Fields) (name : String) : Except Fault (Option Binary64) :=
  match getD row name with
  | .null => .ok none
  | v => v.toBinary64.map some

/-- The whole number in a field. -/
def intField (row : Fields) (name : String) : Except Fault Int := (getD row name).toInt

/-- The whole number in a field, if there is any. -/
def intField? (row : Fields) (name : String) : Except Fault (Option Int) :=
  match getD row name with
  | .null => .ok none
  | v => v.toInt.map some

/-- The number of either kind in a field. -/
def numberField (row : Fields) (name : String) : Except Fault Number :=
  match getD row name with
  | .float x => .ok (.float x)
  | v => v.toInt.map .int

/-- The texts listed in a field, if there is a list. -/
def textsField? (row : Fields) (name : String) : Except Fault (Option (List String)) :=
  match getD row name with
  | .null => .ok none
  | v => do return some (← (← v.members).mapM asText)

end Value

open Value

/-! ### Reading rows -/

/-- Reads a session. -/
def Session.ofFields (row : Fields) : Except Fault Session := do
  return {
    sessionId := ← textField row "session_id"
    issueId := ← textField row "issue_id"
    issueIdentifier := ← textField? row "issue_identifier"
    status := .ofName (← textField row "status")
    workType := ← textField? row "work_type"
    projectName := ← textField? row "project_name"
    workerId := ← textField? row "worker_id"
    priority := ← intField? row "priority"
    queuedAt := ← realField? row "queued_at"
    claimedAt := ← realField? row "claimed_at"
    providerSessionId := ← textField? row "provider_session_id"
    totalCost := (← realField? row "total_cost_usd").getD .nan
    inputTokens := ← numberField row "input_tokens"
    outputTokens := ← numberField row "output_tokens"
    error := ← textField? row "error"
    createdAt := ← realField row "created_at"
    updatedAt := ← realField row "updated_at" }

/-- Reads a worker. -/
def Worker.ofFields (row : Fields) : Except Fault Worker := do
  return {
    id := ← textField row "id"
    hostname := ← textField? row "hostname"
    capacity := ← intField row "capacity"
    activeCount := ← intField row "active_count"
    status := ← textField row "status"
    registeredAt := ← realField row "registered_at"
    lastHeartbeat := ← realField row "last_heartbeat"
    version := ← textField? row "version"
    projects := ← textsField? row "projects" }

/-- Reads an override. -/
def Override.ofFields (row : Fields) : Except Fault Override := do
  return {
    issueId := ← textField row "issue_id"
    directive := ← Directive.ofValue (getD row "directive")
    isActive := (getD row "is_active").truthy
    expiresAt := ← realField? row "expires_at" }

/-- Reads the record of the failed cycles of an issue. -/
def WorkflowState.ofFields (row : Fields) : Except Fault WorkflowState := do
  return {
    issueId := ← textField row "issue_id"
    cycleCount := ← intField row "cycle_count"
    strategy := .ofName (← textField row "strategy")
    failureSummary := ← textField? row "failure_summary"
    qaFailedAt := ← realField? row "qa_failed_at"
    updatedAt := ← realField row "updated_at" }

/-- Reads a marker. -/
def Claim.ofFields (row : Fields) : Except Fault Claim := do
  return {
    sessionId := ← textField row "session_id"
    workerId := ← textField row "worker_id"
    claimedAt := ← realField row "claimed_at" }

/-- Reads a kept touchpoint. -/
def Touchpoint.ofFields (row : Fields) : Except Fault Touchpoint := do
  return {
    id := (← intField row "id").toNat
    issueId := ← textField row "issue_id"
    kind := .ofName (← textField row "type")
    body := ← textField row "body"
    postedAt := ← realField row "posted_at"
    timeout := ← realField? row "timeout_seconds"
    respondedAt := ← realField? row "responded_at"
    autoProceededAt := ← realField? row "auto_proceeded_at" }

/-- Reads a completed phase. -/
def CompletedPhase.ofFields (row : Fields) : Except Fault CompletedPhase := do
  return {
    issueId := ← textField row "issue_id"
    phase := ← textField row "phase"
    sessionId := ← textField? row "session_id"
    completedAt := ← realField row "completed_at" }

/-- Reads a kept event. -/
def StoredEvent.ofFields (row : Fields) : Except Fault StoredEvent := do
  return {
    id := (← intField row "id").toNat
    payload := (← (getD row "payload").members).head?
    publishedAt := ← realField row "published_at"
    deliveredAt := ← realField? row "delivered_at"
    ackedAt := ← realField? row "acked_at" }

/-- Reads a sighting. -/
def Sighting.ofFields (row : Fields) : Except Fault Sighting := do
  return { key := ← textField row "key", seenAt := ← realField row "seen_at" }

/-! ### Whole stores -/

namespace Store

/-- The name under which a snapshot keeps the last number given to a touchpoint. -/
def lastTouchpointName : String := "last_touchpoint"

/-- The name under which a snapshot keeps the last number given to an event. -/
def lastEventName : String := "last_event"

/-- The store as one value. -/
def snapshot (s : Store) : Value :=
  let present := Table.all.filter fun t => !s.missing.contains t
  .ofFields (
    (present.map fun t => (t.name, .list ((s.rows t).map Value.ofFields))) ++
    [(lastTouchpointName, .int s.lastTouchpoint), (lastEventName, .int s.lastEvent)])

/-- Reads the rows of a table; a table without an entry has none. -/
def rowsOf {α : Type} (read : Fields → Except Fault α) (tables : Fields) (t : Table) :
    Except Fault (List α) :=
  match getD tables t.name with
  | .null => .ok []
  | v => do (← v.members).mapM fun row => do read (← row.asObject)

/-- Reads a snapshot. -/
def ofSnapshot (v : Value) : Except Fault Store := do
  let tables ← v.asObject
  let missing := Table.all.filter fun t => (get? tables t.name).isNone
  let work (row : Fields) : Except Fault Work := Work.ofValue (.object row)
  let versions ← rowsOf (fun row => textField row "value") tables .schemaInfo
  return {
    missing
    version := versions.head?
    queue := ← rowsOf work tables .workQueue
    claims := ← rowsOf Claim.ofFields tables .workClaims
    sessions := ← rowsOf Session.ofFields tables .sessions
    workers := ← rowsOf Worker.ofFields tables .workers
    overrides := ← rowsOf Override.ofFields tables .overrides
    workflow := ← rowsOf WorkflowState.ofFields tables .workflowState
    touchpoints := ← rowsOf Touchpoint.ofFields tables .touchpoints
    lastTouchpoint := (← intField tables lastTouchpointName).toNat
    phases := ← rowsOf CompletedPhase.ofFields tables .processingState
    events := ← rowsOf StoredEvent.ofFields tables .events
    lastEvent := (← intField tables lastEventName).toNat
    sightings := ← rowsOf Sighting.ofFields tables .eventDedup }

end Store

end IssueDispatch
