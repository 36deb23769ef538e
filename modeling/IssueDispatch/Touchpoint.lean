import IssueDispatch.Settings
import IssueDispatch.Strategy

/-!
# Touchpoints

A touchpoint is a comment that asks a human for input on an issue that keeps failing.  There are
three kinds, one for each strategy above the normal one.  A touchpoint with a finite window counts
as timed out once it is past the window without an answer; an infinite window never ends.
-/

namespace IssueDispatch

/-- The kinds of touchpoints.  A stored touchpoint may carry another name. -/
inductive TouchpointKind where
  | reviewRequest
  | decompositionProposal
  | escalationAlert
  | other (name : String)
deriving DecidableEq, Repr

namespace TouchpointKind

/-- The name of a kind. -/
def name : TouchpointKind → String
  | reviewRequest => "review-request"
  | decompositionProposal => "decomposition-proposal"
  | escalationAlert => "escalation-alert"
  | other name => name

/-- The kind of a name. -/
def ofName (name : String) : TouchpointKind :=
  if name = "review-request" then reviewRequest
  else if name = "decomposition-proposal" then decompositionProposal
  else if name = "escalation-alert" then escalationAlert
  else other name

@[simp] theorem name_ofName (s : String) : (ofName s).name = s := by
  unfold ofName
  repeat' split
  all_goals simp_all [name]

end TouchpointKind

/-- A posted touchpoint; stored ones have a number. -/
structure Notification where
  kind : TouchpointKind
  issueId : String
  body : String
  postedAt : Binary64
  timeout : Binary64
  respondedAt : Option Binary64 := none
  id : Option Int := none
deriving DecidableEq

namespace Notification

/-- Whether an unanswered touchpoint with a finite window is past it. -/
def hasTimedOut (n : Notification) (now : Binary64) : Bool :=
  n.respondedAt.isNone && n.timeout.isFinite && decide (n.postedAt + n.timeout < now)

/-- The fields of a touchpoint. -/
def toFields (n : Notification) : List (String × Value) := [
  ("type", .str n.kind.name),
  ("issue_id", .str n.issueId),
  ("body", .str n.body),
  ("posted_at", .float n.postedAt),
  ("timeout_seconds", .float n.timeout),
  ("responded_at", .ofBinary64? n.respondedAt),
  ("id", .ofInt? n.id)]

/-! ### The texts -/

/-- The line that gives the cost so far, after a line break. -/
def costLine (cost? : Option Binary64) : String :=
  match cost? with
  | none => ""
  | some cost => "\n- **Total cost so far:** $" ++ cost.fixed 2

/-- A number of seconds in hours, rounded to a whole number, a tie going to the even one. -/
def hours (seconds : Binary64) : Except Fault Int :=
  match (seconds.divNat 3600).scaledHalfEven? 1 with
  | some n => .ok n
  | none =>
    if seconds.isNaN then .error (.unreadableInteger "NaN is no number of hours")
    else .error (.outOfRange "an infinite window has no number of hours")

/-- The failures of an issue, or a remark that there are none on record. -/
def failureText (summary? : Option String) : String :=
  match summary? with
  | none | some "" => "_No failure details available._"
  | some summary => summary

/-- What a touchpoint is about: the issue, how often it failed and what it cost. -/
structure Subject where
  identifier : String
  cycles : Int
  failures : Option String
  cost : Option Binary64 := none
deriving DecidableEq

/-- The first lines of every touchpoint. -/
def opening (title : String) (s : Subject) : String :=
  "## " ++ title ++ "\n\n**" ++ s.identifier ++ "** has failed **" ++ Text.decimalInt s.cycles ++
    "** dev-QA cycle(s)"

/-- The section that lists the failures. -/
def failureSection (s : Subject) : String :=
  "### Failure Summary\n\n" ++ failureText s.failures ++ "\n\n"

/-- A review request, posted while work goes on with more context. -/
def reviewRequest (s : Subject) (strategy : String) (windows : TouchpointSettings)
    (now : Binary64) : Except Fault Notification := do
  let window := windows.reviewRequest
  let body := opening "Review Request" s ++ ".\n\n- **Current strategy:** " ++ strategy ++
    costLine s.cost ++ "\n\n" ++ failureSection s ++
    "### Actions\n\nReply with one of the following directives:\n" ++
    "- **HOLD** - Pause autonomous processing\n" ++
    "- **SKIP QA** - Skip QA and proceed to acceptance\n" ++
    "- **DECOMPOSE** - Trigger task decomposition\n" ++
    "- **REASSIGN** - Stop agent work, assign to a human\n" ++
    "- **PRIORITY: high|medium|low** - Adjust scheduling priority\n" ++
    "- **RESUME** - Continue with current strategy\n\n" ++
    "_This request will auto-proceed in " ++ Text.decimalInt (← hours window) ++
    " hour(s) if no response is received._"
  return {
    kind := .reviewRequest, issueId := s.identifier, body, postedAt := now, timeout := window }

/-- A decomposition proposal, posted when an issue is to be broken up. -/
def decompositionProposal (s : Subject) (windows : TouchpointSettings) (now : Binary64) :
    Except Fault Notification := do
  let window := windows.decompositionProposal
  let cost := match s.cost with
    | none => ""
    | some _ => "- " ++ Text.trim (costLine s.cost) ++ "\n\n"
  let body := opening "Decomposition Proposal" s ++
    " and is being considered for decomposition into smaller sub-issues.\n\n" ++ cost ++
    failureSection s ++ "### Recommended Action\n\n" ++
    "The agent will attempt to decompose this issue into smaller, independently solvable " ++
    "sub-issues.\n\nReply with a directive to override:\n" ++
    "- **HOLD** - Pause and review manually\n" ++
    "- **SKIP QA** - Skip QA and proceed to acceptance\n" ++
    "- **REASSIGN** - Stop agent work entirely\n" ++
    "- **PRIORITY: high|medium|low** - Adjust scheduling priority\n" ++
    "- **RESUME** - Proceed with decomposition (default)\n\n" ++
    "_Decomposition will auto-proceed in " ++ Text.decimalInt (← hours window) ++
    " hour(s) if no response is received._"
  return {
    kind := .decompositionProposal, issueId := s.identifier, body, postedAt := now,
    timeout := window }

/-- An escalation alert, posted when only a human can help. -/
def escalationAlert (s : Subject) (blocker? : Option String) (windows : TouchpointSettings)
    (now : Binary64) : Notification :=
  let blocker := match blocker? with
    | none | some "" => ""
    | some identifier => "\n- **Blocker issue:** " ++ identifier
  let body := opening "Escalation Alert" s ++ " and requires human intervention.\n\n" ++
    "- **Strategy:** escalate-human" ++ blocker ++ costLine s.cost ++ "\n\n" ++ failureSection s ++
    "### Required Action\n\n" ++
    "This issue has exhausted automated resolution strategies. A human must review and take " ++
    "action:\n" ++
    "- **HOLD** - Keep paused (current state)\n" ++
    "- **DECOMPOSE** - Request agent decomposition\n" ++
    "- **REASSIGN** - Assign to a specific person\n" ++
    "- **PRIORITY: high|medium|low** - Adjust scheduling priority\n" ++
    "- **RESUME** - Retry with normal strategy (resets cycle count)\n\n" ++
    "_This issue will remain paused until a human responds._"
  { kind := .escalationAlert, issueId := s.identifier, body, postedAt := now,
    timeout := windows.escalationAlert }

end Notification

/-- What is done by default when a touchpoint has timed out. -/
inductive DefaultAction where
  | refine
  | decompose
deriving DecidableEq, Repr

/-- The name of a default action. -/
def DefaultAction.name : DefaultAction → String
  | .refine => "trigger-refinement"
  | .decompose => "decompose"

/-- The default action of a kind of touchpoint; alerts have none. -/
def TouchpointKind.defaultAction? : TouchpointKind → Option DefaultAction
  | .reviewRequest => some .refine
  | .decompositionProposal => some .decompose
  | _ => none

end IssueDispatch
