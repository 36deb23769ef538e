import IssueDispatch.Store.Basic
import IssueDispatch.Text.Order

/-!
# The work queue

Work waits in the queue until a worker claims it.  Work of lower priority comes first, then what was
queued earlier, then what was inserted earlier.  A claim takes the work out, marks its session as
claimed and records the worker, all in one transaction, so a session is handed to one worker at
most. Two entries of one session never stand in the queue together.
-/

namespace IssueDispatch

namespace Work

/-- Whether work comes before other work or next to it in the order of claims. -/
def claimLe (a b : Work) : Bool :=
  decide (a.priority < b.priority) || (a.priority == b.priority && a.queuedAt.le b.queuedAt)

/-- Whether work may go to a worker of some projects.  Work without a project goes to anyone, and a
worker without a list of projects takes everything. -/
def isEligible (projects : Option (List String)) (w : Work) : Bool :=
  match projects, w.projectName with
  | some names, some name => names.contains name
  | _, _ => true

/-- Work as it is put back: with a better priority, which is never below that of a high override,
and queued now. -/
def boosted (w : Work) (boost : Int) (now : Binary64) : Work :=
  { w with priority := max 0 (w.priority - boost), queuedAt := now }

end Work

namespace Session

/-- The session as claimed by a worker. -/
def claimBy (s : Session) (worker : String) (now : Binary64) : Session :=
  { s with status := .claimed, workerId := some worker, claimedAt := some now, updatedAt := now }

/-- The session as waiting for a worker again. -/
def backToPending (s : Session) (now : Binary64) : Session :=
  { s with status := .pending, workerId := none, claimedAt := none, updatedAt := now }

/-- When the work of the session was queued; a time of zero counts as unknown. -/
def queueTime (s : Session) : Binary64 :=
  match s.queuedAt with
  | some t => if t.isZero then s.createdAt else t
  | none => s.createdAt

/-- The work of a session as far as its record tells; an empty text counts as unknown. -/
def toWork (s : Session) : Work :=
  let known (t : Option String) (default : String) : String :=
    match t with
    | none | some "" => default
    | some t => t
  { sessionId := s.sessionId
    issueId := s.issueId
    issueIdentifier := known s.issueIdentifier s.issueId
    priority := s.priority.getD 3
    queuedAt := s.queueTime
    workType := known s.workType "development"
    projectName := s.projectName }

end Session

namespace Store

/-! ### The order of claims -/

/-- The work that may go to a worker of some projects, in the order of claims. -/
def eligible (s : Store) (projects : Option (List String)) : List Work :=
  (s.queue.filter (·.isEligible projects)).mergeSort Work.claimLe

/-- All work in the order of claims. -/
def inClaimOrder (s : Store) : List Work := s.queue.mergeSort Work.claimLe

/-- Whether the work of a session is in the queue. -/
def hasQueued (s : Store) (sessionId : String) : Bool :=
  s.queue.any fun w => w.sessionId == sessionId

/-- Changes the record of a session. -/
def updateSession (s : Store) (sessionId : String) (f : Session → Session) : Store :=
  { s with sessions := s.sessions.map fun x => if x.sessionId == sessionId then f x else x }

/-- Takes the work of a session out of the queue. -/
def unqueue (s : Store) (sessionId : String) : Store :=
  { s with queue := s.queue.filter fun w => w.sessionId != sessionId }

/-- Removes the marker of a session. -/
def unmark (s : Store) (sessionId : String) : Store :=
  { s with claims := s.claims.filter fun c => c.sessionId != sessionId }

/-- Hands the work of a session to a worker. -/
def handOut (s : Store) (sessionId worker : String) (now : Binary64) : Store :=
  let s := ((s.unqueue sessionId).unmark sessionId).updateSession sessionId (·.claimBy worker now)
  { s with claims := s.claims ++ [⟨sessionId, worker, now⟩] }

/-! ### Queueing and claiming -/

/-- Queues work.  Nothing is queued if the session is in the queue already or the time is no
number. -/
def enqueue (w : Work) : Run Store Bool := .atomically do
  requireTable .workQueue
  requireInteger w.priority
  modifyGet fun s =>
    if w.queuedAt.isNaN || s.hasQueued w.sessionId then (false, s)
    else (true, { s with queue := s.queue ++ [w] })

/-- Hands out given work, if there is any. -/
def handOut? (w? : Option Work) (worker : String) (now : Binary64) :
    Transaction Store (Option Work) := do
  match w? with
  | none => return none
  | some w =>
    requireTables [.workClaims, .sessions]
    modify fun s => s.handOut w.sessionId worker now
    return some w

/-- Claims the next work for a worker. -/
def claim (worker : String) (projects : Option (List String)) (now : Binary64) :
    Run Store (Option Work) := .atomically do
  requireTable .workQueue
  handOut? ((← get).eligible projects).head? worker now

/-- Claims the work of a given session for a worker. -/
def claimSession (sessionId worker : String) (now : Binary64) : Run Store (Option Work) :=
  .atomically do
    requireTable .workQueue
    handOut? ((← get).queue.find? fun w => w.sessionId == sessionId) worker now

/-- The number of entries in the queue. -/
def depth : Run Store Nat := reading [.workQueue] fun s => s.queue.length

/-- Takes the work of a session out of the queue without handing it out. -/
def removeQueued (sessionId : String) : Run Store Bool :=
  changing [.workQueue] fun s => (s.hasQueued sessionId, s.unqueue sessionId)

/-- The first entries that a worker of some projects could claim; a negative limit is no limit. -/
def peek (limit : Int) (projects : Option (List String)) : Run Store (List Work) := .atomically do
  requireTable .workQueue
  requireInteger limit
  let ws := (← get).eligible projects
  return if limit < 0 then ws else ws.take limit.toNat

/-- Every entry of the queue, in the order of claims. -/
def listPending : Run Store (List Work) := reading [.workQueue] inClaimOrder

/-- Whether the work of a session is in the queue. -/
def isQueued (sessionId : String) : Run Store Bool :=
  reading [.workQueue] fun s => s.hasQueued sessionId

/-! ### Markers -/

/-- The worker that has claimed a session. -/
def claimOwner (sessionId : String) : Run Store (Option String) :=
  reading [.workClaims] fun s =>
    (s.claims.find? fun c => c.sessionId == sessionId).map Claim.workerId

/-- Removes the marker of a session. -/
def releaseClaim (sessionId : String) : Run Store Bool :=
  changing [.workClaims] fun s =>
    (s.claims.any fun c => c.sessionId == sessionId, s.unmark sessionId)

/-- The markers that are older than a number of seconds, the oldest first. -/
def expiredClaims (age now : Binary64) : Run Store (List Claim) :=
  reading [.workClaims] fun s =>
    (s.claims.filter fun c => c.claimedAt < now - age).mergeSort fun a b =>
      a.claimedAt.le b.claimedAt

/-- Puts claimed work back.  The claim is given up in a first transaction and the work is queued in
a second one. -/
def requeue (w : Work) (boost : Int) (now : Binary64) : Run Store Bool := do
  changing [.workClaims, .sessions] fun s =>
    ((), (s.unmark w.sessionId).updateSession w.sessionId (·.backToPending now))
  enqueue (w.boosted boost now)

/-! ### Recovery -/

/-- Whether a text matches a pattern, in which a percent sign stands for any characters and an
underscore for any single one.  ASCII letters match whatever their case. -/
def matchesPattern : List Char → List Char → Bool
  | [], cs => cs.isEmpty
  | '%' :: ps, [] => matchesPattern ps []
  | '%' :: ps, c :: cs => matchesPattern ps (c :: cs) || matchesPattern ('%' :: ps) cs
  | '_' :: ps, _ :: cs => matchesPattern ps cs
  | p :: ps, c :: cs => p.toLower == c.toLower && matchesPattern ps cs
  | _ :: _, [] => false
termination_by ps cs => ps.length + cs.length

/-- What a match sees of a text: a null character ends it. -/
def visible (cs : List Char) : List Char := cs.takeWhile (· != '\x00')

/-- Whether some part of an identifier matches a pattern. -/
def matchesPart (part sessionId : String) : Bool :=
  matchesPattern (visible (['%'] ++ part.toList ++ ['%'])) (visible sessionId.toList)

/-- Removes whatever belongs to the sessions that match a part, and gives their identifiers in
increasing order. -/
def removeMatching (part : String) : Run Store (List String) :=
  changing [.workQueue, .workClaims, .sessions] fun s =>
    let hit (sessionId : String) : Bool := matchesPart part sessionId
    let removed := (s.queue.map Work.sessionId ++ s.claims.map Claim.sessionId ++
      s.sessions.map Session.sessionId).filter hit
    (Text.sortedSet removed, { s with
      queue := s.queue.filter fun w => !hit w.sessionId
      claims := s.claims.filter fun c => !hit c.sessionId
      sessions := s.sessions.filter fun x => !hit x.sessionId })

/-- Removes every marker and gives their number. -/
def clearClaims : Run Store Nat :=
  changing [.workClaims] fun s => (s.claims.length, { s with claims := [] })

/-- Empties the queue and gives the number of its entries. -/
def clearQueue : Run Store Nat :=
  changing [.workQueue] fun s => (s.queue.length, { s with queue := [] })

/-- The unfinished sessions in the order in which they were queued. -/
def unfinished (s : Store) : List Session :=
  (s.sessions.filter (·.status.isUnfinished)).mergeSort fun a b =>
    (a.queuedAt.getD a.createdAt).le (b.queuedAt.getD b.createdAt)

/-- Rebuilds the queue from the unfinished sessions and removes every marker.  Gives the number of
the markers and of the sessions. -/
def reset (now : Binary64) : Run Store (Nat × Nat) :=
  changing [.workClaims, .workQueue, .sessions] fun s =>
    let again := s.unfinished
    ((s.claims.length, again.length), { s with
      claims := []
      queue := again.map Session.toWork
      sessions := s.sessions.map fun x =>
        if x.status.isUnfinished then
          { x.backToPending now with providerSessionId := none }
        else x })

end Store

end IssueDispatch
