import IssueDispatch.Issue
import IssueDispatch.Settings

/-!
# The icebox

An issue in the icebox either needs research first or is described well enough to be broken into
backlog issues.  A label may ask for research whatever the description says.
-/

namespace IssueDispatch

namespace IceboxSettings

/-- Whether one of the headers occurs in a description.  The headers are tried in order, and one
that is no text is a fault when it is reached. -/
def anyHeader (description : String) : List Value → Except Fault Bool
  | [] => .ok false
  | .str header :: rest =>
    if Text.contains description header then .ok true else anyHeader description rest
  | header :: _ =>
    .error (.wrongKind ("'in <string>' requires string as left operand, not " ++ header.kindName))

/-- Whether a description is long enough and has one of the headers. -/
def isWellResearched (s : IceboxSettings) (description : Option String) : Except Fault Bool :=
  match description with
  | none => .ok false
  | some text =>
    if text = "" ∨ (text.length : Int) < s.minDescriptionLength then .ok false
    else anyHeader text s.researchedHeaders

/-- The labels of an issue that ask for research, in increasing order. -/
def requestsOf (s : IceboxSettings) (issue : Issue) : List String :=
  issue.labels.filter fun label => s.requestLabels.any fun name => name.names label

/-- Whether an issue needs research: a label asks for it, or its description falls short. -/
def needsResearch (s : IceboxSettings) (issue : Issue) : Except Fault Bool :=
  if !(s.requestsOf issue).isEmpty then .ok true
  else (s.isWellResearched issue.description).map (!·)

end IceboxSettings

/-- The age of an issue. -/
def Issue.age (issue : Issue) (now : Binary64) : Binary64 := now - issue.createdAt

/-- Whether an issue has been in the icebox long enough for research.  Without a clock reading no
time has to pass. -/
def IceboxSettings.isResearchDue (s : IceboxSettings) (issue : Issue) (now? : Option Binary64) :
    Bool :=
  match now? with
  | none => true
  | some now => s.researchDelay ≤ issue.age now

end IssueDispatch
