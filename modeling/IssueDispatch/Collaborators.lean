import IssueDispatch.Decision
import IssueDispatch.Overrides
import IssueDispatch.Store.Phases
import IssueDispatch.Store.Sessions
import IssueDispatch.Store.Workflow

/-!
# Collaborators

`Collaborators` is everything a governor asks of the outside: the issues of a project, the facts
about an issue, and the dispatch of work.  `StoreBacked.collaborators` answers from the shared
store; only the tracker behind it, a `Tracker`, is given from outside.
-/

namespace IssueDispatch

/-- What a governor asks of the outside.  The issues of a project may fail to be a list at all. -/
structure Collaborators (ω : Type) where
  listIssues : Value → Run (World ω) (Option (List Issue))
  hasActiveSession : String → Run (World ω) Bool
  isWithinCooldown : String → Run (World ω) Bool
  isParentIssue : String → Run (World ω) Bool
  isHeld : String → Run (World ω) Bool
  overridePriority : String → Run (World ω) (Option OverridePriority)
  strategy : String → Run (World ω) (Option Strategy)
  isResearchCompleted : String → Run (World ω) Bool
  isBacklogCreationCompleted : String → Run (World ω) Bool
  dispatch : Issue → Action → WorkType → Run (World ω) Unit

/-- What the store does not know: the issues of the tracker, which of them have sub-issues, the
prompts for agents, and new identifiers of sessions. -/
structure Tracker (ω : Type) where
  listIssues : Value → Run (World ω) (Option (List Issue))
  isParentIssue : Option (String → Run (World ω) Bool) := none
  prompt : Issue → String → Run (World ω) (Option String) := fun _ _ => return none
  newSessionId : Run (World ω) String

/-- Collaborators that answer from the shared store. -/
structure StoreBacked (ω : Type) where
  settings : Settings
  shelf : OverrideShelf
  tracker : Tracker ω

namespace StoreBacked

variable {ω : Type}

/-- Whether an issue is paused or belongs to a human. -/
def isHeld (b : StoreBacked ω) (issueId : String) : Run (World ω) Bool := do
  if ← b.shelf.isHeld issueId then return true
  b.shelf.hasDirective issueId .reassign

/-- The priority of the work on an issue: the rank of its override. -/
def workPriority (b : StoreBacked ω) (issueId : String) : Run (World ω) Nat := do
  return OverridePriority.rank (← b.shelf.priority issueId)

/-- The session that a dispatch records. -/
def newSession (issue : Issue) (sessionId workType : String) (priority : Nat) (now : Binary64) :
    Store.NewSession :=
  { sessionId
    issueId := issue.id
    issueIdentifier := some issue.identifier
    workType := some workType
    projectName := issue.project
    priority := some priority
    queuedAt := some now }

/-- The work that a dispatch queues. -/
def newWork (issue : Issue) (sessionId workType : String) (priority : Nat)
    (prompt : Option String) (now : Binary64) : Work :=
  { sessionId
    issueId := issue.id
    issueIdentifier := issue.identifier
    priority
    queuedAt := now
    workType
    projectName := issue.project
    prompt }

/-- Reports a fault of the store as one of the dispatch. -/
def asDispatchFault (issue : Issue) (attempted : String) (fault : Fault) : Fault :=
  if fault.isStoreFault then .dispatchFailed issue.id (attempted ++ ": " ++ fault.message)
  else fault

/-- Records a pending session of an issue and then queues its work.  The record is written first, so
that the issue counts as busy while its work waits.  Work that cannot be queued leaves a failed
session behind. -/
def dispatch (b : StoreBacked ω) (issue : Issue) (workType : String) : Run (World ω) Unit := do
  let sessionId ← b.tracker.newSessionId
  let priority ← b.workPriority issue.id
  let now ← World.now
  let prompt ← b.tracker.prompt issue workType
  let session := newSession issue sessionId workType priority now
  let registering := "Failed to register session for " ++ issue.identifier
  match ← Run.attempt (World.onStore (Store.createIfIdle session now)) with
  | .error fault => throw (asDispatchFault issue registering fault)
  | .ok none => throw (.issueBusy issue.id issue.identifier)
  | .ok (some _) =>
    let work := newWork issue sessionId workType priority prompt now
    let queueing := "Failed to queue " ++ workType ++ " work for " ++ issue.identifier
    let fail (error : String) : Run (World ω) Unit := do
      let _ ← World.onStore (Store.updateStatus sessionId .failed none (some error) now)
    match ← Run.attempt (World.onStore (Store.enqueue work)) with
    | .ok true => return ()
    | .ok false =>
      fail "enqueue failed"
      throw (.dispatchFailed issue.id queueing)
    | .error fault =>
      if fault.isStoreFault then fail fault.message
      throw (asDispatchFault issue queueing fault)

/-- The collaborators that answer from the store. -/
def collaborators (b : StoreBacked ω) : Collaborators ω where
  listIssues := b.tracker.listIssues
  hasActiveSession issueId := World.onStore (Store.hasActiveSession issueId)
  isWithinCooldown issueId :=
    World.onStoreNow (Store.didJustFail issueId b.settings.qaCooldown)
  isParentIssue issueId :=
    match b.tracker.isParentIssue with
    | none => return false
    | some check => check issueId
  isHeld := b.isHeld
  overridePriority := b.shelf.priority
  strategy issueId := World.onStore (Store.getStrategy issueId)
  isResearchCompleted issueId := World.onStore (Store.isCompleted issueId Phase.research.name)
  isBacklogCreationCompleted issueId :=
    World.onStore (Store.isCompleted issueId Phase.backlogCreation.name)
  dispatch issue _ workType := b.dispatch issue workType.name

end StoreBacked

end IssueDispatch
