import IssueDispatch.Overrides
import IssueDispatch.Store.Touchpoints
import IssueDispatch.Store.Workflow

/-!
# Escalation

An issue that keeps failing quality assurance is escalated step by step: more context is given to
the agents, then the issue is to be broken up, and in the end it is parked until a human speaks.
Every failed cycle posts a touchpoint that asks for input.  A directive answers the touchpoints of
its issue; one that is left unanswered past its window is proceeded with by default.
-/

namespace IssueDispatch

/-- What escalation needs: where overrides are kept, the windows of the touchpoints, and a way to
post comments to the tracker, if there is one. -/
structure Escalation (ω : Type) where
  shelf : OverrideShelf
  windows : TouchpointSettings
  postComment : Option (String → String → Run (World ω) Unit) := none

namespace Escalation

variable {ω : Type}

/-- The touchpoint that a strategy calls for. -/
def notification? (e : Escalation ω) (strategy : Strategy) (s : Notification.Subject)
    (now : Binary64) : Except Fault (Option Notification) :=
  match strategy with
  | .contextEnriched => (Notification.reviewRequest s strategy.name e.windows now).map some
  | .decompose => (Notification.decompositionProposal s e.windows now).map some
  | .escalateHuman => .ok (some (Notification.escalationAlert s none e.windows now))
  | _ => .ok none

/-- The directive that parks an issue until a human replies. -/
def parking (now : Binary64) : Directive :=
  { kind := .hold, reason := some "escalated to human", timestamp := now }

/-- Counts one more failed cycle of an issue, and posts the touchpoint that the new strategy calls
for.  An issue that only a human can help is put on hold. -/
def recordFailure (e : Escalation ω) (issueId identifier : String) (summary : Option String)
    (cost : Option Binary64) : Run (World ω) (Option Notification) := do
  let now ← World.now
  World.onStore (Store.markQaFailed issueId now)
  match summary with
  | none | some "" => pure ()
  | some summary =>
    let _ ← World.onStore (Store.addFailureSummary issueId summary now)
  let state ← World.onStore (Store.countFailure issueId now)
  let subject : Notification.Subject :=
    { identifier, cycles := state.cycleCount, failures := state.failureSummary, cost }
  match ← Run.ofExcept (e.notification? state.strategy subject now) with
  | none => return none
  | some n =>
    if state.strategy = .escalateHuman then
      let _ ← e.shelf.set issueId (parking now) none
    let n ← World.onStore (Store.saveTouchpoint issueId { n with issueId })
    if let some post := e.postComment then post issueId n.body
    return some n

/-- Notes that an issue has passed quality assurance. -/
def recordSuccess (_ : Escalation ω) (issueId : String) : Run (World ω) Unit :=
  World.onStoreNow (Store.clearQaFailed issueId)

/-- Follows a directive.  It answers the open touchpoints of the issue, whatever it orders. -/
def apply (e : Escalation ω) (issueId : String) (d : Directive) : Run (World ω) Unit := do
  let _ ← World.onStoreNow (Store.markResponded issueId)
  match d.kind with
  | .resume =>
    e.shelf.clear issueId
    World.onStore (Store.clearWorkflow issueId)
  | kind =>
    let _ ← e.shelf.set issueId d none
    if kind = .decompose then
      let _ ← World.onStoreNow (Store.setStrategy issueId .decompose)

/-- Whether a touchpoint with a finite window is open for an issue and inside its window. -/
def isAwaiting (_ : Escalation ω) (issueId : String) (now? : Option Binary64) :
    Run (World ω) Bool := do
  let now := now?.getD (← World.now)
  let pending ← World.onStore (Store.pendingTouchpoints (some issueId))
  return pending.any fun n => n.timeout.isFinite && !n.hasTimedOut now

/-- Proceeds with touchpoints that have timed out by their default action; those that have none stay
open.  Gives the touchpoints with their actions. -/
def proceed : List Notification → Binary64 → Run (World ω) (List (Notification × DefaultAction))
  | [], _ => return []
  | n :: rest, now => do
    match n.kind.defaultAction? with
    | none => proceed rest now
    | some action =>
      World.onStore (Store.markAutoProceeded (n.id.getD 0) now)
      if action = .decompose then
        let _ ← World.onStoreNow (Store.setStrategy n.issueId .decompose)
      return (n, action) :: (← proceed rest now)

/-- Proceeds with every touchpoint that nobody answered in time. -/
def processTimeouts (_ : Escalation ω) (now? : Option Binary64) :
    Run (World ω) (List (Notification × DefaultAction)) := do
  let now := now?.getD (← World.now)
  let pending ← World.onStore (Store.pendingTouchpoints none)
  proceed (pending.filter (·.hasTimedOut now)) now

end Escalation

end IssueDispatch
