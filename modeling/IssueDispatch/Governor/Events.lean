import IssueDispatch.Bus
import IssueDispatch.Dedup
import IssueDispatch.Governor.Scan
import IssueDispatch.Time.Iso

/-!
# Event-driven governors

An event-driven governor looks at an issue as soon as an event reports that something happened to
it. A comment may hold a directive, which is followed instead.  An event is acknowledged once it is
handled, or dropped as a repeat of an earlier one; if its handling fails it stays unacknowledged.
Sweeps publish an event for every listed issue, so that a report that got lost only costs time.
-/

namespace IssueDispatch

/-- A governor that also listens to a bus. -/
structure EventGovernor (ω : Type) extends Governor ω where
  bus : Bus
  dedup : Option Dedup := none

/-- How a reader of the bus went on. -/
inductive ConsumerStep where
  | handled (id : String)
  | waiting
  | ended
deriving DecidableEq, Repr

namespace EventGovernor

variable {ω : Type}

/-- The comment that an event reports. -/
def comment (commentId : String) (body userId : Option String) (isBot : Bool)
    (timestamp : Option String) : Comment :=
  { id := commentId, body, userId, isBot
    createdAt := (timestamp.bind Iso.seconds?).getD 0 }

/-- Follows the directive in a comment.  A comment without one, or without anyone to follow it,
makes the governor look at the issue, as does an order to resume. -/
def handleComment (g : EventGovernor ω) (issueId : String) (issue : Issue) (c : Comment) :
    Run (World ω) Unit := do
  match Directive.ofComment? c, g.escalation with
  | some d, some e =>
    e.apply issueId d
    if d.kind = .resume then
      let _ ← g.handle issue
  | _, _ =>
    let _ ← g.handle issue

/-- Does what an event calls for. -/
def react (g : EventGovernor ω) (e : Event) : Run (World ω) Unit := do
  match e.detail with
  | .commentAdded commentId body userId _ isBot =>
    g.handleComment e.issueId e.issue (comment commentId body userId isBot e.timestamp)
  | _ =>
    let _ ← g.handle e.issue

/-- Whether an event repeats one that was reported lately.  This report is noted if it does not. -/
def isRepeat (g : EventGovernor ω) (e : Event) : Run (World ω) Bool := do
  match g.dedup with
  | none => return false
  | some d =>
    let window ← Run.ofExcept g.settings.dedupWindow.toBinary64
    d.seen e.key (some window)

/-- Handles one event; a payload that is no event is dropped. -/
def process (g : EventGovernor ω) (id : String) (e? : Option Event) : Run (World ω) Unit := do
  if let some e := e? then
    if !(← g.isRepeat e) then g.react e
  g.bus.ack id

/-- Publishes a snapshot of every issue in a list and counts them. -/
def publishSnapshots (g : EventGovernor ω) (project : Value) :
    List Issue → Nat → Run (World ω) (Nat × Option Fault)
  | [], n => return (n, none)
  | issue :: rest, n => do
    let publish : Run (World ω) Unit := do
      let timestamp ← Run.ofExcept (isoReading (← World.now))
      let _ ← g.bus.publish {
        issueId := issue.id, issue, detail := .pollSnapshot project, source := "poll",
        timestamp := some timestamp }
    match ← Run.attempt publish with
    | .ok () => g.publishSnapshots project rest (n + 1)
    | .error fault => return (n, some fault)

/-- Publishes a snapshot of every issue of every project and counts them.  A project whose issues
cannot be listed or published is left at that point. -/
def sweep (g : EventGovernor ω) : Run (World ω) Nat := do
  let counts ← g.settings.projects.mapM fun project => do
    match ← Run.attempt (g.collaborators.listIssues project) with
    | .ok (some issues) => return (← g.publishSnapshots project issues 0).1
    | _ => return 0
  return counts.foldl (· + ·) 0

/-! ### Listening -/

/-- Takes the next event from the bus and handles it.  A governor that has been stopped listens no
more, and faults of the handling are told and contained, as are events with fields of other kinds
than it can handle. -/
def consume (g : EventGovernor ω) : Run (World ω) ConsumerStep := do
  match ← Run.attempt g.bus.next with
  | .error fault =>
    if ← g.isRunning then g.report fault
    return .ended
  | .ok .ended => return .ended
  | .ok .waiting => return .waiting
  | .ok (.event id e) =>
    if !(← g.isRunning) then return .ended
    match ← Run.attempt (g.process id (some e)) with
    | .ok () => return .handled id
    | .error fault =>
      g.report fault
      return .handled id
  | .ok (.untyped id kind _) =>
    if !(← g.isRunning) then return .ended
    g.report (.wrongKind ("a field of the " ++ kind.name ++ " event is of another kind"))
    return .handled id

/-- Handles events until there are no more of them, at most a number of times.  Says whether the
governor still listens. -/
def consumeAll (g : EventGovernor ω) : Nat → Run (World ω) Bool
  | 0 => return true
  | n + 1 => do
    match ← g.consume with
    | .handled _ => g.consumeAll n
    | .waiting => return true
    | .ended => return false

/-- Starts the governor: the bus is opened.  Starting a running governor changes nothing. -/
def start (g : EventGovernor ω) : Run (World ω) Unit := do
  if !(← g.isRunning) then
    modify fun w => { w with running := g.id :: w.running }
    g.bus.reopen

/-- Stops the governor: the bus is closed.  Stopping a stopped governor changes nothing. -/
def stop (g : EventGovernor ω) : Run (World ω) Unit := do
  if ← g.isRunning then
    modify fun w => { w with running := w.running.filter (· != g.id) }
    g.bus.close

end EventGovernor

end IssueDispatch
