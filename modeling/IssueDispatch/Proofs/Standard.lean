import IssueDispatch.Governor.Events
import IssueDispatch.Proofs.Dispatch

/-!
# The standard installation

The settings that hold where nobody has changed any, and a tracker that always shows the same issues
and gives out one session id.  Closed instances of theorems about governors are stated for them.
Where it matters that calls fail, the collaborators are `Collaborators.given` instead, which answer
what they are told to and note what they dispatch.
-/

namespace IssueDispatch

/-- The settings that hold where nobody has changed any. -/
def Settings.standard : Settings where
  projects := []
  scanInterval := .int 60
  maxConcurrentDispatches := 3
  autoResearch := false
  autoBacklogCreation := false
  autoDevelopment := true
  autoQa := true
  autoAcceptance := true
  humanResponseTimeout := 14400
  qaCooldown := .int 300
  polling := true
  pollInterval := .int 300
  dedupWindow := .int 10
  statuses := {
    icebox := .str "Icebox"
    backlog := .str "Backlog"
    started := .str "Started"
    finished := .str "Finished"
    delivered := .str "Delivered"
    rejected := .str "Rejected"
    terminal := [.str "Accepted", .str "Canceled", .str "Duplicate"] }
  touchpoints := {
    reviewRequest := 14400
    decompositionProposal := 7200
    escalationAlert := .infinity false }
  icebox := {
    researchDelay := 3600
    minDescriptionLength := 200
    researchedHeaders := [.str "## Acceptance Criteria", .str "## Technical Approach",
      .str "## Summary", .str "## Design", .str "## Requirements"]
    requestLabels := [.str "Needs Research"] }

/-- A tracker that shows the same issues in every project and never gives out another session id
than one. -/
def Tracker.fixed {ω : Type} (issues : List Issue) (sessionId : String) : Tracker ω where
  listIssues _ := return some issues
  newSessionId := return sessionId

/-- Such a tracker is quiet. -/
lemma Tracker.isQuiet_fixed {ω : Type} (issues : List Issue) (sessionId : String) :
    (Tracker.fixed issues sessionId : Tracker ω).IsQuiet where
  listIssues _ := .pure (some issues)
  isParentIssue _ hcheck := nomatch hcheck
  prompt _ _ := .pure none
  newSessionId := .pure sessionId

/-- What a governor asks of a fixed tracker and the shared store. -/
def StoreBacked.fixed {ω : Type} (issues : List Issue) (sessionId : String) : StoreBacked ω where
  settings := .standard
  shelf := .shared
  tracker := .fixed issues sessionId

/-- A governor with the standard settings that nobody listens to. -/
def Governor.standard {ω : Type} (b : StoreBacked ω) : Governor ω where
  id := 0
  settings := .standard
  collaborators := b.collaborators

/-- The same governor as it listens to the bus of its process.  It remembers for ten seconds what
has been reported. -/
def EventGovernor.standard {ω : Type} (b : StoreBacked ω) : EventGovernor ω where
  toGovernor := .standard b
  bus := .inProcess
  dedup := some (.inProcess 10)

/-- Collaborators that list given issues, read given overrides and dispatch with given outcomes.
They know nothing else about issues, and note those that they have dispatched. -/
def Collaborators.given (issues : Value → Except Fault (List Issue))
    (priority : String → Except Fault (Option OverridePriority))
    (outcome : String → Except Fault Unit) : Collaborators (List String) where
  listIssues project := Run.ofExcept ((issues project).map some)
  hasActiveSession _ := return false
  isWithinCooldown _ := return false
  isParentIssue _ := return false
  isHeld _ := return false
  overridePriority issueId := Run.ofExcept (priority issueId)
  strategy _ := return none
  isResearchCompleted _ := return false
  isBacklogCreationCompleted _ := return false
  dispatch issue _ _ := do
    Run.ofExcept (outcome issue.id)
    modify fun w => { w with outside := w.outside ++ [issue.id] }

/-- A governor of some projects that dispatches a number of issues in each. -/
def Governor.capped {ω : Type} (projects : List String) (cap : Int) (c : Collaborators ω) :
    Governor ω where
  id := 0
  settings := { Settings.standard with
    projects := projects.map Value.str
    maxConcurrentDispatches := cap }
  collaborators := c

/-- The manager of escalation with the standard windows, which posts no comments. -/
def Escalation.standard {ω : Type} : Escalation ω where
  shelf := .shared
  windows := Settings.standard.touchpoints

/-- An issue in the backlog. -/
def Issue.inBacklog (id : String) : Issue where
  id := id
  identifier := id
  title := none
  status := "Backlog"
  labels := []
  createdAt := 0
  description := none
  parentId := none
  project := none

/-- The report of a poll that found an issue in the backlog. -/
def Event.found (id : String) : Event where
  issueId := id
  issue := .inBacklog id
  detail := .pollSnapshot .null
  source := "poll"
  timestamp := none

/-- A world in which nothing has happened yet. -/
def World.fresh : World Unit where
  clock := 0
  outside := ()

/-- A world in which nothing has happened yet and no dispatch has been noted. -/
def World.unnoted : World (List String) where
  clock := 0
  outside := []

end IssueDispatch
