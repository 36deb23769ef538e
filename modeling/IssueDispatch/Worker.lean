import IssueDispatch.Value.Json

/-!
# Workers

A worker is a machine that runs sessions of agents.  It takes as many at a time as its capacity
allows, from the projects it is registered for or from any project, and shows by its heartbeat that
it is alive.
-/

namespace IssueDispatch

/-- A registered worker.  Without a list of projects it takes work of every project. -/
structure Worker where
  id : String
  hostname : Option String
  capacity : Int
  activeCount : Int
  status : String
  registeredAt : Binary64
  lastHeartbeat : Binary64
  version : Option String := none
  projects : Option (List String) := none
deriving DecidableEq

namespace Worker

/-- The status of a worker that is given work. -/
def activeStatus : String := "active"

/-- The number of seconds without a heartbeat after which a worker is stale by default. -/
def defaultTimeout : Binary64 := 90

/-- The number of sessions a worker can take on. -/
def availableSlots (w : Worker) : Int := max 0 (w.capacity - w.activeCount)

/-- Whether the last heartbeat of a worker is more than the timeout ago. -/
def isStale (w : Worker) (timeout now : Binary64) : Bool := timeout < now - w.lastHeartbeat

/-- The fields of a worker. -/
def toFields (w : Worker) : List (String × Value) := [
  ("id", .str w.id),
  ("hostname", .ofText? w.hostname),
  ("capacity", .int w.capacity),
  ("active_count", .int w.activeCount),
  ("status", .str w.status),
  ("registered_at", .float w.registeredAt),
  ("last_heartbeat", .float w.lastHeartbeat),
  ("version", .ofText? w.version),
  ("projects", (w.projects.map Value.ofTexts).getD .null)]

/-- Reads the list of projects in a stored record; an empty text stands for no list. -/
def readProjects (stored : Option String) : Except Fault Value :=
  match stored with
  | none | some "" => .ok .null
  | some text =>
    match Json.read? text with
    | some v => .ok v
    | none => .error .unreadableJson

end Worker

end IssueDispatch
