import IssueDispatch.Icebox
import IssueDispatch.Strategy

/-!
# Decisions

`Issue.decide` says what is to be done with one issue.  It looks at the snapshot, the settings and a
`Context` of facts gathered beforehand, and the first rule that applies wins: guards that hold an
issue back come first, then the rule of the stage that the status of the issue names.  Whatever is
not done has a `SkipReason`, whatever is done a `DispatchReason`.
-/

namespace IssueDispatch

/-- The kinds of work that agents are given. -/
inductive WorkType where
  | research
  | backlogCreation
  | development
  | qa
  | acceptance
  | refinement
  | coordination
  | escalation
deriving DecidableEq, Repr

/-- The name of a kind of work. -/
def WorkType.name : WorkType → String
  | .research => "research"
  | .backlogCreation => "backlog-creation"
  | .development => "development"
  | .qa => "qa"
  | .acceptance => "acceptance"
  | .refinement => "refinement"
  | .coordination => "coordination"
  | .escalation => "escalation"

/-- What can be done with an issue. -/
inductive Action where
  | triggerResearch
  | triggerBacklogCreation
  | triggerDevelopment
  | triggerQa
  | triggerAcceptance
  | triggerRefinement
  | decompose
  | escalateHuman
deriving DecidableEq, Repr

/-- The name of an action. -/
def Action.name : Action → String
  | .triggerResearch => "trigger-research"
  | .triggerBacklogCreation => "trigger-backlog-creation"
  | .triggerDevelopment => "trigger-development"
  | .triggerQa => "trigger-qa"
  | .triggerAcceptance => "trigger-acceptance"
  | .triggerRefinement => "trigger-refinement"
  | .decompose => "decompose"
  | .escalateHuman => "escalate-human"

/-- The kind of work an action hands out, unless a rule says otherwise. -/
def Action.workType : Action → WorkType
  | .triggerResearch => .research
  | .triggerBacklogCreation => .backlogCreation
  | .triggerDevelopment => .development
  | .triggerQa => .qa
  | .triggerAcceptance => .acceptance
  | .triggerRefinement => .refinement
  | .decompose => .coordination
  | .escalateHuman => .escalation

/-- Why nothing is done with an issue.  The last reason is given by a scan and not by a decision. -/
inductive SkipReason where
  | held
  | activeSession
  | cooldown
  | terminal (status : String)
  | started
  | subIssue
  | developmentDisabled
  | qaDisabled
  | acceptanceDisabled
  | awaitingResponse
  | noTransition
  | parentInIcebox
  | subIssueInIcebox
  | tooYoung (age delay : Binary64)
  | researchDisabled
  | allCompleted
  | backlogCompleted
  | backlogCreationDisabled
  | dispatchLimit
deriving DecidableEq

/-- The wording of a reason. -/
def SkipReason.message : SkipReason → String
  | .held => "held by human override"
  | .activeSession => "active session in progress"
  | .cooldown => "cooldown after recent QA failure"
  | .terminal status => "terminal status: " ++ status
  | .started => "agent already working (started)"
  | .subIssue => "sub-issue, only parent issues are dispatched directly"
  | .developmentDisabled => "auto-development is disabled"
  | .qaDisabled => "auto-QA is disabled"
  | .acceptanceDisabled => "auto-acceptance is disabled"
  | .awaitingResponse => "awaiting human response to open touchpoint"
  | .noTransition => "no applicable transition for status"
  | .parentInIcebox => "parent issues are handled by the coordination workflow"
  | .subIssueInIcebox => "sub-issue, researched through its parent"
  | .tooYoung age delay =>
    "needs research but has not been in icebox long enough (" ++ age.fixed 0 ++ "s < " ++
      delay.fixed 0 ++ "s)"
  | .researchDisabled => "auto-research is disabled and the issue is not well researched"
  | .allCompleted => "research and backlog creation already completed"
  | .backlogCompleted => "backlog creation already completed"
  | .backlogCreationDisabled => "auto-backlog-creation is disabled"
  | .dispatchLimit => "dispatch limit reached"

/-- Why an action is taken. -/
inductive DispatchReason where
  | parentInBacklog
  | inBacklog
  | finishedForHuman
  | finishedForDecomposition
  | finished
  | delivered
  | researchRequested (labels : List String)
  | needsResearch
  | researchComplete
  | wellResearched
  | rejectedForHuman
  | rejectedForDecomposition
  | rejected
deriving DecidableEq, Repr

/-- The wording of a reason. -/
def DispatchReason.message : DispatchReason → String
  | .parentInBacklog => "parent issue in backlog, triggering coordination"
  | .inBacklog => "issue in backlog, triggering development"
  | .finishedForHuman => "finished with escalate-human strategy, needs a human"
  | .finishedForDecomposition => "finished with decompose strategy, triggering decomposition"
  | .finished => "issue finished, triggering QA"
  | .delivered => "issue delivered, triggering acceptance"
  | .researchRequested labels => "research requested by label: " ++ ", ".intercalate labels
  | .needsResearch => "icebox issue needs research"
  | .researchComplete => "research complete, creating backlog issues"
  | .wellResearched => "issue is well researched, creating backlog issues"
  | .rejectedForHuman => "rejected with escalate-human strategy, needs a human"
  | .rejectedForDecomposition => "rejected with decompose strategy, triggering decomposition"
  | .rejected => "rejected, triggering refinement"

/-- What is decided about an issue. -/
inductive Decision where
  | skip (reason : SkipReason)
  | dispatch (action : Action) (workType : WorkType) (reason : DispatchReason)
deriving DecidableEq

namespace Decision

/-- Takes an action with the kind of work that belongs to it. -/
def act (action : Action) (reason : DispatchReason) : Decision :=
  .dispatch action action.workType reason

/-- Whether something is to be done. -/
def isActionable : Decision → Bool
  | .skip _ => false
  | .dispatch .. => true

/-- The action taken, if any. -/
def action? : Decision → Option Action
  | .skip _ => none
  | .dispatch action _ _ => some action

/-- The kind of work handed out, if any. -/
def workType? : Decision → Option WorkType
  | .skip _ => none
  | .dispatch _ workType _ => some workType

/-- The wording of the reason. -/
def message : Decision → String
  | .skip reason => reason.message
  | .dispatch _ _ reason => reason.message

/-- The fields of a decision; that of a skip names no action. -/
def toFields (d : Decision) : List (String × Value) := [
  ("action", .str ((d.action?.map Action.name).getD "none")),
  ("reason", .str d.message),
  ("work_type", .ofText? (d.workType?.map WorkType.name)),
  ("is_actionable", .bool d.isActionable)]

end Decision

/-- The facts about an issue that a decision depends on.  An issue awaits a response while a
touchpoint with a finite window is open and inside it.  Without a clock reading the research delay
of the icebox is not applied. -/
structure Context where
  hasActiveSession : Bool := false
  isHeld : Bool := false
  isWithinCooldown : Bool := false
  isParentIssue : Bool := false
  strategy : Option Strategy := none
  researchCompleted : Bool := false
  backlogCreationCompleted : Bool := false
  awaitingResponse : Bool := false
  now : Option Binary64 := none
deriving DecidableEq

/-- The fields of the facts. -/
def Context.toFields (c : Context) : List (String × Value) := [
  ("has_active_session", .bool c.hasActiveSession),
  ("is_held", .bool c.isHeld),
  ("is_within_cooldown", .bool c.isWithinCooldown),
  ("is_parent_issue", .bool c.isParentIssue),
  ("workflow_strategy", .ofText? (c.strategy.map Strategy.name)),
  ("research_completed", .bool c.researchCompleted),
  ("backlog_creation_completed", .bool c.backlogCreationCompleted),
  ("awaiting_human_response", .bool c.awaitingResponse),
  ("now", .ofBinary64? c.now)]

/-- Reads facts; those that are not given do not hold. -/
def Context.ofFields (fields : Fields) : Except Fault Context := do
  let flag (name : String) : Bool := (Value.getD fields name).truthy
  let now ← match Value.getD fields "now" with
    | .null => pure none
    | v => v.toBinary64.map some
  return {
    hasActiveSession := flag "has_active_session"
    isHeld := flag "is_held"
    isWithinCooldown := flag "is_within_cooldown"
    isParentIssue := flag "is_parent_issue"
    strategy := match Value.getD fields "workflow_strategy" with
      | .null => none
      | v => some (.ofName v.text)
    researchCompleted := flag "research_completed"
    backlogCreationCompleted := flag "backlog_creation_completed"
    awaitingResponse := flag "awaiting_human_response"
    now }

/-- The stages of an issue at which something can be done. -/
inductive Stage where
  | icebox
  | backlog
  | finished
  | delivered
  | rejected
deriving DecidableEq, Repr

/-- The first stage that a status names. -/
def StatusMap.stage? (s : StatusMap) (status : String) : Option Stage :=
  if s.icebox.names status then some .icebox
  else if s.backlog.names status then some .backlog
  else if s.finished.names status then some .finished
  else if s.delivered.names status then some .delivered
  else if s.rejected.names status then some .rejected
  else none

/-- The guard that holds an issue back, whatever its stage. -/
def guard? (issue : Issue) (settings : Settings) (ctx : Context) : Option SkipReason :=
  if ctx.isHeld then some .held
  else if ctx.hasActiveSession then some .activeSession
  else if ctx.isWithinCooldown then some .cooldown
  else if settings.statuses.isTerminal issue.status then some (.terminal issue.status)
  else if settings.statuses.started.names issue.status then some .started
  else none

/-- What follows in the icebox once research is done or not called for. -/
def decideBacklogCreation (settings : Settings) (ctx : Context) : Decision :=
  if ctx.backlogCreationCompleted then
    .skip (if ctx.researchCompleted then .allCompleted else .backlogCompleted)
  else if !settings.autoBacklogCreation then .skip .backlogCreationDisabled
  else if ctx.researchCompleted then .act .triggerBacklogCreation .researchComplete
  else .act .triggerBacklogCreation .wellResearched

/-- The research of an issue in the icebox, once it is known to need it. -/
def decideResearch (issue : Issue) (settings : Settings) (ctx : Context) : Decision :=
  if !settings.icebox.isResearchDue issue ctx.now then
    .skip (.tooYoung (issue.age (ctx.now.getD 0)) settings.icebox.researchDelay)
  else
    match settings.icebox.requestsOf issue with
    | [] => .act .triggerResearch .needsResearch
    | labels => .act .triggerResearch (.researchRequested labels)

/-- The rule of the icebox. -/
def decideIcebox (issue : Issue) (settings : Settings) (ctx : Context) : Except Fault Decision := do
  if ctx.isParentIssue then return .skip .parentInIcebox
  if issue.parentId.isSome then return .skip .subIssueInIcebox
  let wellResearched ← settings.icebox.isWellResearched issue.description
  if ctx.researchCompleted then return decideBacklogCreation settings ctx
  if settings.autoResearch then
    if ← settings.icebox.needsResearch issue then return decideResearch issue settings ctx
  if !wellResearched then return .skip .researchDisabled
  return decideBacklogCreation settings ctx

/-- The rule of the backlog: sub-issues belong to the coordinator of their parent. -/
def decideBacklog (issue : Issue) (settings : Settings) (ctx : Context) : Decision :=
  if issue.parentId.isSome then .skip .subIssue
  else if !settings.autoDevelopment then .skip .developmentDisabled
  else if ctx.isParentIssue then .dispatch .triggerDevelopment .coordination .parentInBacklog
  else .act .triggerDevelopment .inBacklog

/-- The rule of finished issues. -/
def decideFinished (settings : Settings) (ctx : Context) : Decision :=
  if !settings.autoQa then .skip .qaDisabled
  else if ctx.strategy = some .escalateHuman then .act .escalateHuman .finishedForHuman
  else if ctx.strategy = some .decompose then
    if ctx.awaitingResponse then .skip .awaitingResponse
    else .act .decompose .finishedForDecomposition
  else .act .triggerQa .finished

/-- The rule of delivered issues. -/
def decideDelivered (settings : Settings) : Decision :=
  if !settings.autoAcceptance then .skip .acceptanceDisabled
  else .act .triggerAcceptance .delivered

/-- The rule of rejected issues. -/
def decideRejected (ctx : Context) : Decision :=
  if ctx.strategy = some .escalateHuman then .act .escalateHuman .rejectedForHuman
  else if ctx.awaitingResponse then .skip .awaitingResponse
  else if ctx.strategy = some .decompose then .act .decompose .rejectedForDecomposition
  else .act .triggerRefinement .rejected

/-- Decides what to do with an issue. -/
def Issue.decide (issue : Issue) (settings : Settings) (ctx : Context) : Except Fault Decision :=
  match guard? issue settings ctx with
  | some reason => .ok (.skip reason)
  | none =>
    match settings.statuses.stage? issue.status with
    | some .icebox => decideIcebox issue settings ctx
    | some .backlog => .ok (decideBacklog issue settings ctx)
    | some .finished => .ok (decideFinished settings ctx)
    | some .delivered => .ok (decideDelivered settings)
    | some .rejected => .ok (decideRejected ctx)
    | none => .ok (.skip .noTransition)

end IssueDispatch
