import IssueDispatch.Number.Summation
import IssueDispatch.Store.Queue

/-!
# Session records

Sessions are recorded when work is dispatched and updated as the work goes on.  `Store.createIfIdle`
is the gate of all dispatching: it records a session only if the issue has no active one, and check
and insertion are one transaction.
-/

namespace IssueDispatch

namespace Store

/-- A session as given for a new record. -/
structure NewSession where
  sessionId : String
  issueId : String
  issueIdentifier : Option String := none
  workType : Option String := none
  projectName : Option String := none
  priority : Option Int := none
  queuedAt : Option Binary64 := none
deriving DecidableEq

/-- The record of a new session. -/
def NewSession.toSession (n : NewSession) (status : SessionStatus) (now : Binary64) : Session :=
  { sessionId := n.sessionId
    issueId := n.issueId
    issueIdentifier := n.issueIdentifier
    status
    workType := n.workType
    projectName := n.projectName
    priority := n.priority
    queuedAt := n.queuedAt.bind kept
    createdAt := now
    updatedAt := now }

/-- Whether an issue has an active session. -/
def isBusy (s : Store) (issueId : String) : Bool :=
  s.sessions.any fun x => x.issueId == issueId && x.status.isActive

/-- The record of a session. -/
def findSession (s : Store) (sessionId : String) : Option Session :=
  s.sessions.find? fun x => x.sessionId == sessionId

/-- The record of a session. -/
def getSession (sessionId : String) : Run Store (Option Session) :=
  reading [.sessions] fun s => s.findSession sessionId

/-- Records a session, in place of any with the same identifier. -/
def createSession (n : NewSession) (status : SessionStatus) (now : Binary64) :
    Run Store (Option Session) := do
  Run.atomically do
    requireTable .sessions
    n.priority.forM requireInteger
    modify fun s => { s with
      sessions := (s.sessions.filter fun x => x.sessionId != n.sessionId) ++
        [n.toSession status now] }
  getSession n.sessionId

/-- Records a pending session unless its issue has an active one already.  An identifier that is in
use is a fault. -/
def createIfIdle (n : NewSession) (now : Binary64) : Run Store (Option Session) := do
  let created ← Run.atomically do
    requireTable .sessions
    if (← get).isBusy n.issueId then return false
    n.priority.forM requireInteger
    if ((← get).findSession n.sessionId).isSome then throw (.duplicateKey "sessions.session_id")
    modify fun s => { s with sessions := s.sessions ++ [n.toSession .pending now] }
    return true
  if created then getSession n.sessionId else return none

/-- The records of sessions, of one status or of all, the newest first. -/
def listSessions (status : Option SessionStatus) : Run Store (List Session) :=
  reading [.sessions] fun s =>
    let chosen := match status with
      | none => s.sessions
      | some status => s.sessions.filter fun x => x.status == status
    chosen.mergeSort fun a b => b.createdAt.le a.createdAt

/-- Changes the record of a session, and says whether there is one. -/
def changeSession (sessionId : String) (f : Session → Session) : Run Store Bool :=
  changing [.sessions] fun s =>
    ((s.findSession sessionId).isSome, s.updateSession sessionId f)

/-- Moves a session to another status.  A worker and an error are recorded when they are given. -/
def updateStatus (sessionId : String) (status : SessionStatus) (worker error : Option String)
    (now : Binary64) : Run Store Bool := do
  if !status.isKnown then throw (.invalidSessionStatus status.name)
  changeSession sessionId fun x => { x with
    status
    workerId := worker <|> x.workerId
    error := error <|> x.error
    updatedAt := now }

/-- What a column of whole numbers keeps of a number: one that is whole and lies within 64 bits is
kept whole. -/
def keptCount (x : Binary64) : Number :=
  match x.whole? with
  | some n => if -(twoPow 63 : Int) < n ∧ n < twoPow 63 - 1 then .int n else .float x
  | none => .float x

/-- Adds to a count.  A sum of more than 64 bits is rounded. -/
def addCount : Number → Int → Number
  | .int m, n =>
    if -(twoPow 63 : Int) ≤ m + n ∧ m + n < twoPow 63 then .int (m + n)
    else keptCount (.ofInt m + .ofInt n)
  | .float x, n => keptCount (x + .ofInt n)

/-- Adds costs to a session. -/
def recordCost (sessionId : String) (cost : Binary64) (inputTokens outputTokens : Int)
    (now : Binary64) : Run Store Bool := .atomically do
  requireTable .sessions
  requireInteger inputTokens
  requireInteger outputTokens
  modifyGet fun s =>
    ((s.findSession sessionId).isSome, s.updateSession sessionId fun x => { x with
      totalCost := x.totalCost + cost
      inputTokens := addCount x.inputTokens inputTokens
      outputTokens := addCount x.outputTokens outputTokens
      updatedAt := now })

/-- Notes under which identifier the provider of agents can resume a session. -/
def setProviderSession (sessionId providerSessionId : String) (now : Binary64) : Run Store Bool :=
  changeSession sessionId fun x => { x with
    providerSessionId := some providerSessionId, updatedAt := now }

/-- Whether an issue has an active session. -/
def hasActiveSession (issueId : String) : Run Store Bool :=
  reading [.sessions] fun s => s.isBusy issueId

/-- What some records have cost together.  Costs that are kept as none are left out, and a sum that
is NaN counts as zero. -/
def costOf (xs : List Session) : Binary64 :=
  let cost := Binary64.sum ((xs.map Session.totalCost).filter fun c => !c.isNaN)
  if cost.isNaN then 0 else cost

/-- What all sessions of an issue cost. -/
def issueCost (issueId : String) : Run Store Binary64 :=
  reading [.sessions] fun s => costOf (s.sessions.filter fun x => x.issueId == issueId)

/-- Deletes the record of a session. -/
def deleteSession (sessionId : String) : Run Store Bool :=
  changing [.sessions] fun s =>
    ((s.findSession sessionId).isSome,
      { s with sessions := s.sessions.filter fun x => x.sessionId != sessionId })

/-- Deletes every record and gives their number. -/
def clearSessions : Run Store Nat :=
  changing [.sessions] fun s => (s.sessions.length, { s with sessions := [] })

end Store

end IssueDispatch
