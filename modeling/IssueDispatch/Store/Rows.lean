import IssueDispatch.Store.Basic

/-!
# Rows of tables

`Store.rows` shows a table as rows of named fields, in the order of their insertion.
-/

namespace IssueDispatch

/-- The fields of a marker. -/
def Claim.toFields (c : Claim) : List (String × Value) := [
  ("session_id", .str c.sessionId),
  ("worker_id", .str c.workerId),
  ("claimed_at", .float c.claimedAt)]

/-- The fields of a kept touchpoint. -/
def Touchpoint.toFields (t : Touchpoint) : List (String × Value) := [
  ("id", .int t.id),
  ("issue_id", .str t.issueId),
  ("type", .str t.kind.name),
  ("body", .str t.body),
  ("posted_at", .float t.postedAt),
  ("timeout_seconds", .ofBinary64? t.timeout),
  ("responded_at", .ofBinary64? t.respondedAt),
  ("auto_proceeded_at", .ofBinary64? t.autoProceededAt)]

/-- The fields of a completed phase. -/
def CompletedPhase.toFields (p : CompletedPhase) : List (String × Value) := [
  ("issue_id", .str p.issueId),
  ("phase", .str p.phase),
  ("session_id", .ofText? p.sessionId),
  ("completed_at", .float p.completedAt)]

/-- The fields of a kept event.  A payload stands in a list, which is empty if there is none. -/
def StoredEvent.toFields (e : StoredEvent) : List (String × Value) := [
  ("id", .int e.id),
  ("payload", .list e.payload.toList),
  ("published_at", .float e.publishedAt),
  ("delivered_at", .ofBinary64? e.deliveredAt),
  ("acked_at", .ofBinary64? e.ackedAt)]

/-- The fields of a sighting. -/
def Sighting.toFields (x : Sighting) : List (String × Value) := [
  ("key", .str x.key),
  ("seen_at", .float x.seenAt)]

/-- The rows of a table. -/
def Store.rows (s : Store) : Table → List (List (String × Value))
  | .workQueue => s.queue.map Work.toFields
  | .workClaims => s.claims.map Claim.toFields
  | .sessions => s.sessions.map Session.toFields
  | .workers => s.workers.map Worker.toFields
  | .overrides => s.overrides.map Override.toFields
  | .workflowState => s.workflow.map WorkflowState.toFields
  | .touchpoints => s.touchpoints.map Touchpoint.toFields
  | .processingState => s.phases.map CompletedPhase.toFields
  | .events => s.events.map StoredEvent.toFields
  | .eventDedup => s.sightings.map Sighting.toFields
  | .schemaInfo =>
    s.version.toList.map fun version => [("key", .str "version"), ("value", .str version)]

end IssueDispatch
