import IssueDispatch.Collaborators
import IssueDispatch.Escalation
import IssueDispatch.ScanResult

/-!
# Governors

A governor looks after the issues of some projects.  What it does with one issue is the same however
it comes to look at it: it gathers the facts (`Governor.gather`), decides (`Governor.evaluate`) and
dispatches (`Governor.handle`).
-/

namespace IssueDispatch

/-- A governor: its settings, what it asks of the outside, and whom it tells about finished scans
and about faults that it has contained. -/
structure Governor (ω : Type) where
  id : GovernorId
  settings : Settings
  collaborators : Collaborators ω
  escalation : Option (Escalation ω) := none
  onScanComplete : List ScanResult → Run (World ω) Unit := fun _ => return ()
  onError : Fault → Run (World ω) Unit := fun _ => return ()

namespace Governor

variable {ω : Type}

/-- Tells about a fault that has been contained.  Whatever goes wrong then is passed over. -/
def report (g : Governor ω) (fault : Fault) : Run (World ω) Unit := do
  let _ ← Run.attempt (g.onError fault)

/-- Whether the governor has been started and not been stopped since. -/
def isRunning (g : Governor ω) : Run (World ω) Bool := return (← get).running.contains g.id

/-- Gathers the facts about an issue.  All of them are asked for before the first one that failed is
reported, in the order in which a decision lists them. -/
def gather (g : Governor ω) (issue : Issue) :
    Run (World ω) (Context × Option OverridePriority) := do
  let c := g.collaborators
  let hasActiveSession ← Run.attempt (c.hasActiveSession issue.id)
  let isHeld ← Run.attempt (c.isHeld issue.id)
  let isWithinCooldown ← Run.attempt (c.isWithinCooldown issue.id)
  let isParentIssue ← Run.attempt (c.isParentIssue issue.id)
  let strategy ← Run.attempt (c.strategy issue.id)
  let researchCompleted ← Run.attempt (c.isResearchCompleted issue.id)
  let backlogCreationCompleted ← Run.attempt (c.isBacklogCreationCompleted issue.id)
  let awaitingResponse ← Run.attempt (match g.escalation with
    | none => return false
    | some e => e.isAwaiting issue.id none)
  let priority ← Run.attempt (c.overridePriority issue.id)
  let ctx : Context := {
    hasActiveSession := ← Run.ofExcept hasActiveSession
    isHeld := ← Run.ofExcept isHeld
    isWithinCooldown := ← Run.ofExcept isWithinCooldown
    isParentIssue := ← Run.ofExcept isParentIssue
    strategy := ← Run.ofExcept strategy
    researchCompleted := ← Run.ofExcept researchCompleted
    backlogCreationCompleted := ← Run.ofExcept backlogCreationCompleted
    awaitingResponse := ← Run.ofExcept awaitingResponse
    now := some (← World.now) }
  return (ctx, ← Run.ofExcept priority)

/-- Decides what to do with an issue, and gives the priority of its override. -/
def evaluate (g : Governor ω) (issue : Issue) :
    Run (World ω) (Decision × Option OverridePriority) := do
  let (ctx, priority) ← g.gather issue
  let decision ← Run.ofExcept (issue.decide g.settings ctx)
  return (decision, priority)

/-- Dispatches what has been decided about an issue. -/
def dispatch (g : Governor ω) (issue : Issue) (d : Decision) : Run (World ω) Unit :=
  match d with
  | .skip _ => return ()
  | .dispatch action workType _ => g.collaborators.dispatch issue action workType

/-- Decides about an issue and dispatches.  An issue that has become busy since it was evaluated is
skipped. -/
def handle (g : Governor ω) (issue : Issue) : Run (World ω) Decision := do
  let (decision, _) ← g.evaluate issue
  match ← Run.attempt (g.dispatch issue decision) with
  | .ok () => return decision
  | .error (.issueBusy ..) => return .skip .activeSession
  | .error fault => throw fault

end Governor

end IssueDispatch
