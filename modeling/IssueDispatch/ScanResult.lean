import IssueDispatch.Decision
import IssueDispatch.Journal

/-!
# Results of scans

What a scan did in one project: how many issues it looked at, how many it dispatched, why it skipped
others, and what failed.
-/

namespace IssueDispatch

/-- A failure that a scan met, with the issue or the project it is about. -/
structure ScanError where
  issueId : String
  error : String
deriving DecidableEq, Repr

/-- The result of a scan of one project.  The reasons are listed in the order in which their issues
were first skipped. -/
structure ScanResult where
  project : Value
  scannedIssues : Nat := 0
  actionsDispatched : Nat := 0
  skippedReasons : List (String × SkipReason) := []
  errors : List ScanError := []

namespace ScanResult

/-- Notes why an issue was skipped; a later reason takes the place of an earlier one. -/
def addReason (identifier : String) (reason : SkipReason) :
    List (String × SkipReason) → List (String × SkipReason)
  | [] => [(identifier, reason)]
  | entry :: rest =>
    if entry.1 == identifier then (identifier, reason) :: rest
    else entry :: addReason identifier reason rest

/-- Notes that an issue was skipped. -/
def skip (r : ScanResult) (identifier : String) (reason : SkipReason) : ScanResult :=
  { r with skippedReasons := addReason identifier reason r.skippedReasons }

/-- Notes a failure. -/
def fail (r : ScanResult) (issueId : String) (fault : Fault) : ScanResult :=
  { r with errors := r.errors ++ [⟨issueId, fault.message⟩] }

/-- Notes a dispatch. -/
def dispatched (r : ScanResult) : ScanResult :=
  { r with actionsDispatched := r.actionsDispatched + 1 }

/-- The fields of a result. -/
def toFields (r : ScanResult) : List (String × Value) := [
  ("project", r.project),
  ("scanned_issues", .int r.scannedIssues),
  ("actions_dispatched", .int r.actionsDispatched),
  ("skipped_reasons", .ofFields (r.skippedReasons.map fun (identifier, reason) =>
    (identifier, .str reason.message))),
  ("errors", .list (r.errors.map fun e =>
    .ofFields [("issue_id", .str e.issueId), ("error", .str e.error)]))]

/-- The source of the journal entries about scans. -/
def journalSource : String := Journal.rootSource ++ ".runner"

/-- The journal entries about a result: one that sums it up and one for each failure. -/
def entries (r : ScanResult) : List (Severity × String) :=
  let head := "[" ++ r.project.text ++ "] "
  let count (name : String) (n : Nat) : String := name ++ "=" ++ toString n
  (.info, head ++ " ".intercalate [
    count "scanned" r.scannedIssues,
    count "dispatched" r.actionsDispatched,
    count "skipped" r.skippedReasons.length,
    count "errors" r.errors.length]) ::
  r.errors.map fun e => (.warning, head ++ e.issueId ++ ": " ++ e.error)

/-- Writes results to the journal. -/
def journal (results : List ScanResult) (now : Binary64) (j : Journal) : Journal :=
  (results.flatMap entries).foldl (fun j (severity, text) =>
    j.write now severity journalSource text) j

end ScanResult

end IssueDispatch
