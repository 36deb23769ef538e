import IssueDispatch.Store.Queue

/-!
# Worker registrations

Workers register with the store, show by heartbeats that they are alive, and poll it for work.  A
poll hands out as much work as the worker has free slots for, up to a limit.
-/

namespace IssueDispatch

namespace Store

/-- The most work that one poll hands out. -/
def maxClaimsPerPoll : Int := 5

/-- The registration of a worker. -/
def getWorker (id : String) : Run Store (Option Worker) :=
  reading [.workers] fun s => s.workers.find? fun w => w.id == id

/-- Registers a worker as active and idle, in place of any registration it had.  Without a host name
it is taken to run on this host, and an empty list of projects is none. -/
def register (id : String) (capacity : Int) (hostname version : Option String)
    (projects : Option (List String)) (host : String) (now : Binary64) :
    Run Store (Option Worker) := do
  let hostname := match hostname with
    | none | some "" => host
    | some name => name
  let projects := match projects with
    | some [] => none
    | projects => projects
  Run.atomically do
    requireTable .workers
    requireInteger capacity
    modify fun s => { s with
      workers := (s.workers.filter fun w => w.id != id) ++ [{
        id, hostname := some hostname, capacity, activeCount := 0, status := Worker.activeStatus,
        registeredAt := now, lastHeartbeat := now, version, projects }] }
  getWorker id

/-- Notes that a worker is alive and how much it works on; a status is noted when it is given. -/
def heartbeat (id : String) (activeCount : Int) (status : Option String) (now : Binary64) :
    Run Store Bool := .atomically do
  requireTable .workers
  requireInteger activeCount
  modifyGet fun s =>
    (s.workers.any fun w => w.id == id, { s with
      workers := s.workers.map fun w =>
        if w.id == id then
          { w with lastHeartbeat := now, activeCount, status := status.getD w.status }
        else w })

/-- All registrations, the oldest first. -/
def listWorkers : Run Store (List Worker) :=
  reading [.workers] fun s => s.workers.mergeSort fun a b => a.registeredAt.le b.registeredAt

/-- Removes the registration of a worker. -/
def deregister (id : String) : Run Store Bool :=
  changing [.workers] fun s =>
    (s.workers.any fun w => w.id == id, { s with workers := s.workers.filter fun w => w.id != id })

/-- Removes every registration and gives their number. -/
def clearWorkers : Run Store Nat :=
  changing [.workers] fun s => (s.workers.length, { s with workers := [] })

/-- The workers whose heartbeat is more than a timeout ago. -/
def staleWorkers (timeout now : Binary64) : Run Store (List Worker) := do
  return (← listWorkers).filter (·.isStale timeout now)

/-- Claims work for a worker up to a number of times, as long as there is any. -/
def claimMany (worker : String) (projects : Option (List String)) (now : Binary64) :
    Nat → Run Store (List Work)
  | 0 => return []
  | n + 1 => do
    match ← claim worker projects now with
    | none => return []
    | some w => return w :: (← claimMany worker projects now n)

/-- Hands out work to a worker that polls for it.  Only an active worker is given any. -/
def poll (id : String) (now : Binary64) : Run Store (List Work) := do
  match ← getWorker id with
  | none => return []
  | some worker =>
    if worker.status != Worker.activeStatus then return []
    let slots := min worker.availableSlots maxClaimsPerPoll
    let works ← claimMany id worker.projects now slots.toNat
    if !works.isEmpty then
      let _ ← heartbeat id (worker.activeCount + works.length) none now
    return works

end Store

end IssueDispatch
