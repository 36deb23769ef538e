import IssueDispatch.Governor.Events

/-!
# Running a governor

A governor runs in one of two modes: it scans at intervals, or it listens to a bus.  It may also be
asked for a single scan, whatever the mode.  `Runner.runWithStore` runs a governor whose state,
queue and bus are all in the shared store.
-/

namespace IssueDispatch

/-- How a governor comes to look at issues. -/
inductive Mode where
  | pollOnly
  | eventDriven
deriving DecidableEq, Repr

namespace Mode

/-- The name of a mode. -/
def name : Mode → String
  | pollOnly => "poll-only"
  | eventDriven => "event-driven"

/-- The mode of a name. -/
def ofName (name : String) : Except Fault Mode :=
  if name = pollOnly.name then .ok pollOnly
  else if name = eventDriven.name then .ok eventDriven
  else .error (.unknownMode name)

end Mode

namespace Runner

variable {ω : Type}

/-- What comes of running a governor: the results of a single scan, or a governor that runs on. -/
inductive Outcome where
  | results (rs : List ScanResult)
  | started (mode : Mode)

/-- Runs a governor.  To listen it needs a bus. -/
def run (g : Governor ω) (bus : Option (Bus × Option Dedup)) (mode : String) (once : Bool) :
    Run (World ω) Outcome := do
  let mode ← Run.ofExcept (Mode.ofName mode)
  if once then return .results (← g.scan)
  match mode, bus with
  | .pollOnly, _ =>
    g.start
    return .started mode
  | .eventDriven, none => throw .busRequired
  | .eventDriven, some (bus, dedup) =>
    EventGovernor.start { g with bus, dedup }
    return .started mode

/-- The visibility timeout of a stored bus. -/
def visibility : Binary64 := 60

/-- A governor on top of the shared store. -/
def storeGovernor (id : GovernorId) (settings : Settings) (tracker : Tracker ω)
    (postComment : Option (String → String → Run (World ω) Unit)) : Governor ω :=
  let backed : StoreBacked ω := { settings, shelf := .shared, tracker }
  { id
    settings
    collaborators := backed.collaborators
    escalation := some { shelf := .shared, windows := settings.touchpoints, postComment } }

/-- The bus and the deduplicator in the shared store. -/
def storeBus (settings : Settings) : Except Fault (Bus × Option Dedup) := do
  return (.stored visibility, some (.stored (← settings.dedupWindow.toBinary64)))

/-- Runs a governor on top of the shared store.  Tables that are missing are created first, and only
a governor that listens is given the bus. -/
def runWithStore (g : Governor ω) (mode : String) (once : Bool) : Run (World ω) Outcome := do
  World.onStore (modify Store.create)
  let bus ← if mode = Mode.eventDriven.name then (some <$> Run.ofExcept (storeBus g.settings))
    else pure none
  run g bus mode once

end Runner

end IssueDispatch
