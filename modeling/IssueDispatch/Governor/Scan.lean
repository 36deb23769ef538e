import IssueDispatch.Governor.Basic

/-!
# Scans

A scan looks at every issue of every project, in three steps for each project: the issues are
listed, all of them are evaluated, and then those that call for an action are dispatched in the
order of their overrides until the cap of the project is reached.  A failure is noted and stays with
the issue or the project it concerns.  A governor runs one scan at a time; a scan asked for
meanwhile does nothing.
-/

namespace IssueDispatch

/-- An issue that calls for an action. -/
structure Actionable where
  issue : Issue
  decision : Decision
  priority : Option OverridePriority

namespace Actionable

/-- The order of dispatches: by the rank of the override. -/
def rankLe (a b : Actionable) : Bool :=
  OverridePriority.rank a.priority ≤ OverridePriority.rank b.priority

end Actionable

namespace Governor

variable {ω : Type}

/-- Evaluates the issues of a project: those that call for an action, in the order of the list, and
the result with the others noted. -/
def evaluateAll (g : Governor ω) :
    List Issue → ScanResult → Run (World ω) (List Actionable × ScanResult)
  | [], r => return ([], r)
  | issue :: rest, r => do
    match ← Run.attempt (g.evaluate issue) with
    | .error fault => g.evaluateAll rest (r.fail issue.identifier fault)
    | .ok (.skip reason, _) => g.evaluateAll rest (r.skip issue.identifier reason)
    | .ok (decision, priority) =>
      let (actionable, r) ← g.evaluateAll rest r
      return (⟨issue, decision, priority⟩ :: actionable, r)

/-- Dispatches issues one after the other until the cap is reached.  A failed dispatch and an issue
that has become busy do not count. -/
def dispatchAll (g : Governor ω) : List Actionable → ScanResult → Run (World ω) ScanResult
  | [], r => return r
  | a :: rest, r =>
    if g.settings.maxConcurrentDispatches ≤ (r.actionsDispatched : Int) then
      g.dispatchAll rest (r.skip a.issue.identifier .dispatchLimit)
    else do
      match ← Run.attempt (g.dispatch a.issue a.decision) with
      | .ok () => g.dispatchAll rest r.dispatched
      | .error (.issueBusy ..) => g.dispatchAll rest (r.skip a.issue.identifier .activeSession)
      | .error fault => g.dispatchAll rest (r.fail a.issue.identifier fault)

/-- Scans one project.  A listing that is no list at all is a fault of the scan. -/
def scanProject (g : Governor ω) (project : Value) : Run (World ω) ScanResult := do
  let r : ScanResult := { project }
  match ← Run.attempt (g.collaborators.listIssues project) with
  | .error fault => return r.fail ("project:" ++ project.text) fault
  | .ok none => throw (.wrongKind "the issues of a project are no list")
  | .ok (some issues) =>
    let (actionable, r) ← g.evaluateAll issues { r with scannedIssues := issues.length }
    g.dispatchAll (actionable.mergeSort Actionable.rankLe) r

/-- Proceeds with the touchpoints that nobody answered in time.  Gives their issues with the default
actions. -/
def processTimeouts (g : Governor ω) : Run (World ω) (List (String × DefaultAction)) := do
  match g.escalation with
  | none => return []
  | some e =>
    match ← Run.attempt (e.processTimeouts none) with
    | .ok proceeded => return proceeded.map fun (n, action) => (n.issueId, action)
    | .error fault =>
      g.report fault
      return []

/-- Whether a scan of the governor is under way. -/
def isScanning (g : Governor ω) : Run (World ω) Bool := return (← get).scanning.contains g.id

/-- Scans all projects, one after the other. -/
def scanAll (g : Governor ω) : Run (World ω) (List ScanResult) := do
  let _ ← g.processTimeouts
  g.settings.projects.mapM g.scanProject

/-- Runs a computation during which a scan counts as under way. -/
def whileScanning {α : Type} (g : Governor ω) (x : Run (World ω) α) : Run (World ω) α := do
  modify fun w => { w with scanning := g.id :: w.scanning }
  let r ← Run.attempt x
  modify fun w => { w with scanning := w.scanning.filter (· != g.id) }
  Run.ofExcept r

/-- Runs a scan, unless one is under way, and tells about its results. -/
def scan (g : Governor ω) : Run (World ω) (List ScanResult) := do
  if ← g.isScanning then return []
  let results ← g.whileScanning g.scanAll
  let _ ← Run.attempt (g.onScanComplete results)
  return results

/-- Starts to scan at intervals; the first scan is run at once.  A fault that escapes a scan is told
and contained.  Starting a running governor changes nothing. -/
def start (g : Governor ω) : Run (World ω) Unit := do
  if !(← g.isRunning) then
    modify fun w => { w with running := g.id :: w.running }
    if let .error fault ← Run.attempt g.scan then g.report fault

/-- Stops to scan at intervals. -/
def stop (g : Governor ω) : Run (World ω) Unit :=
  modify fun w => { w with running := w.running.filter (· != g.id) }

end Governor

end IssueDispatch
