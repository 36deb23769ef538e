import IssueDispatch.Store.Basic

/-!
# Completed phases

Research and backlog creation are noted as completed, so that they are not done twice.
-/

namespace IssueDispatch

/-- The phases at the top of the funnel. -/
inductive Phase where
  | research
  | backlogCreation
deriving DecidableEq, Repr

/-- The name of a phase. -/
def Phase.name : Phase → String
  | .research => "research"
  | .backlogCreation => "backlog-creation"

/-- Whether a row is about a phase of an issue. -/
def CompletedPhase.isOf (c : CompletedPhase) (issueId phase : String) : Bool :=
  c.issueId == issueId && c.phase == phase

namespace Store

/-- Notes that a phase is completed for an issue. -/
def markCompleted (issueId phase : String) (sessionId : Option String) (now : Binary64) :
    Run Store Unit :=
  changing [.processingState] fun s =>
    ((), { s with
      phases := (s.phases.filter fun c => !c.isOf issueId phase) ++
        [⟨issueId, phase, sessionId, now⟩] })

/-- Whether a phase is completed for an issue. -/
def isCompleted (issueId phase : String) : Run Store Bool :=
  reading [.processingState] fun s => s.phases.any (·.isOf issueId phase)

/-- Forgets one phase of an issue or all of them, and gives the number of those that were noted. -/
def clearPhases (issueId : String) (phase : Option String) : Run Store Nat :=
  changing [.processingState] fun s =>
    let hit (c : CompletedPhase) : Bool :=
      c.issueId == issueId && (match phase with
        | none | some "" => true
        | some phase => c.phase == phase)
    (s.phases.countP hit, { s with phases := s.phases.filter fun c => !hit c })

end Store

end IssueDispatch
