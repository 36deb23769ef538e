import IssueDispatch.Event
import IssueDispatch.Override
import IssueDispatch.Run
import IssueDispatch.Session
import IssueDispatch.Touchpoint
import IssueDispatch.Work
import IssueDispatch.Worker
import IssueDispatch.Workflow

/-!
# The store

Everything that governors and workers share is kept in the tables of one store.  Each table lists
its rows in the order of their insertion; a row that is written anew moves to the end, one that is
changed stays.  A table may be missing, and then every transaction that needs it fails.

The operations of the store are in the modules beside this one, a table or two in each.  An
operation is a computation on the store made of one transaction or of several.
-/

namespace IssueDispatch

/-- The marker of a session that a worker has claimed. -/
structure Claim where
  sessionId : String
  workerId : String
  claimedAt : Binary64
deriving DecidableEq

/-- A posted touchpoint as it is kept.  An infinite window is kept as none. -/
structure Touchpoint where
  id : Nat
  issueId : String
  kind : TouchpointKind
  body : String
  postedAt : Binary64
  timeout : Option Binary64
  respondedAt : Option Binary64 := none
  autoProceededAt : Option Binary64 := none
deriving DecidableEq

/-- A phase at the top of the funnel that is completed for an issue. -/
structure CompletedPhase where
  issueId : String
  phase : String
  sessionId : Option String
  completedAt : Binary64
deriving DecidableEq

/-- An event as it is kept.  A payload that is no JSON is none. -/
structure StoredEvent where
  id : Nat
  payload : Option Value
  publishedAt : Binary64
  deliveredAt : Option Binary64 := none
  ackedAt : Option Binary64 := none

/-- When an occurrence was last reported. -/
structure Sighting where
  key : String
  seenAt : Binary64
deriving DecidableEq

/-- The tables of a store. -/
inductive Table where
  | workQueue
  | workClaims
  | sessions
  | workers
  | overrides
  | workflowState
  | touchpoints
  | processingState
  | events
  | eventDedup
  | schemaInfo
deriving DecidableEq, Repr

namespace Table

/-- All tables. -/
def all : List Table := [workQueue, workClaims, sessions, workers, overrides, workflowState,
  touchpoints, processingState, events, eventDedup, schemaInfo]

/-- The name of a table. -/
def name : Table → String
  | workQueue => "work_queue"
  | workClaims => "work_claims"
  | sessions => "sessions"
  | workers => "workers"
  | overrides => "overrides"
  | workflowState => "workflow_state"
  | touchpoints => "touchpoints"
  | processingState => "processing_state"
  | events => "governor_events"
  | eventDedup => "event_dedup"
  | schemaInfo => "schema_info"

/-- The table of a name. -/
def ofName? (name : String) : Option Table := all.find? fun t => t.name == name

end Table

/-- The content of a store.  The numbers of touchpoints and events are never used again. -/
structure Store where
  missing : List Table := []
  version : Option String := some "1"
  queue : List Work := []
  claims : List Claim := []
  sessions : List Session := []
  workers : List Worker := []
  overrides : List Override := []
  workflow : List WorkflowState := []
  touchpoints : List Touchpoint := []
  lastTouchpoint : Nat := 0
  phases : List CompletedPhase := []
  events : List StoredEvent := []
  lastEvent : Nat := 0
  sightings : List Sighting := []

instance : Inhabited Store := ⟨{}⟩

namespace Store

/-- A store in which no table has been created yet. -/
def blank : Store := { missing := Table.all, version := none }

/-! ### Tables -/

/-- Fails if a table is missing. -/
def requireTable (t : Table) : Transaction Store Unit := fun s =>
  if s.missing.contains t then .error (.missingTable t.name) else .ok ((), s)

/-- Fails if one of some tables is missing; the first one is reported. -/
def requireTables (ts : List Table) : Transaction Store Unit := ts.forM requireTable

/-- Fails if a whole number has more than 64 bits. -/
def requireInteger (n : Int) : Transaction Store Unit :=
  if -(twoPow 63 : Int) ≤ n ∧ n < twoPow 63 then pure ()
  else throw (.outOfRange "integer too large for the store")

/-- Reads from a store that has some tables. -/
def reading {α : Type} (ts : List Table) (f : Store → α) : Run Store α :=
  .atomically do
    requireTables ts
    return f (← get)

/-- Changes a store that has some tables. -/
def changing {α : Type} (ts : List Table) (f : Store → α × Store) : Run Store α :=
  .atomically do
    requireTables ts
    modifyGet f

/-- What a column keeps of a number: NaN is kept as none. -/
def kept (x : Binary64) : Option Binary64 := if x.isNaN then none else some x

/-- Drops the rows of a table and the table itself. -/
def dropTable (t : Table) (s : Store) : Store :=
  let s := { s with missing := t :: s.missing }
  match t with
  | .workQueue => { s with queue := [] }
  | .workClaims => { s with claims := [] }
  | .sessions => { s with sessions := [] }
  | .workers => { s with workers := [] }
  | .overrides => { s with overrides := [] }
  | .workflowState => { s with workflow := [] }
  | .touchpoints => { s with touchpoints := [], lastTouchpoint := 0 }
  | .processingState => { s with phases := [] }
  | .events => { s with events := [], lastEvent := 0 }
  | .eventDedup => { s with sightings := [] }
  | .schemaInfo => { s with version := none }

/-- Drops a table. -/
def drop (t : Table) : Run Store Unit := changing [t] fun s => ((), s.dropTable t)

/-- Creates the tables that are missing and notes the version of the tables. -/
def create (s : Store) : Store := { s with missing := [], version := some "1" }

/-- The version of the tables, if the store has any. -/
def schemaVersion (s : Store) : Except Fault (Option Int) :=
  if s.missing.contains .schemaInfo then .ok none
  else
    match s.version with
    | none => .ok none
    | some text => ((Value.str text).toInt).map some

end Store

end IssueDispatch
