import IssueDispatch.Store.Basic
import IssueDispatch.Value.JsonText

/-!
# Stored events

The store carries a bus of events between processes.  Delivery hides an event for a while; if it has
not been acknowledged by then, it is delivered again, so an event is delivered at least once even if
its receiver dies.  The store also remembers which occurrences were reported lately, for every
governor that shares it.
-/

namespace IssueDispatch

/-- Whether an event may be delivered: it is not acknowledged, and its last delivery, if any, is
longer ago than the visibility timeout. -/
def StoredEvent.isDeliverable (e : StoredEvent) (visibility now : Binary64) : Bool :=
  e.ackedAt.isNone && (match e.deliveredAt with
    | none => true
    | some time => time < now - visibility)

namespace Store

/-- Keeps a payload as a new event and gives its number. -/
def addPayload (payload : Option Value) (now : Binary64) : Run Store Nat :=
  changing [.events] fun s =>
    let id := s.lastEvent + 1
    (id, { s with
      lastEvent := id
      events := s.events ++ [{ id, payload, publishedAt := now }] })

/-- Publishes an event and gives its number.  Its payload is kept as JSON, which not every value can
be written in. -/
def publishEvent (e : Event) (now : Binary64) : Run Store Nat :=
  match Json.refusal? e.toValue with
  | some detail => throw (.wrongKind detail)
  | none => addPayload (some e.toValue) now

/-- Delivers the next event: its number and payload. -/
def deliverNext (visibility now : Binary64) : Run Store (Option (Nat × Option Value)) :=
  changing [.events] fun s =>
    match s.events.find? fun e => e.isDeliverable visibility now with
    | none => (none, s)
    | some e => (some (e.id, e.payload), { s with
        events := s.events.map fun x =>
          if x.id = e.id then { x with deliveredAt := some now } else x })

/-- Acknowledges an event. -/
def ackEvent (id : Int) (now : Binary64) : Run Store Unit := .atomically do
  requireTable .events
  requireInteger id
  modify fun s => { s with
    events := s.events.map fun x =>
      if (x.id : Int) = id then { x with ackedAt := some now } else x }

/-- The number of events that are not acknowledged. -/
def pendingEvents : Run Store Nat :=
  reading [.events] fun s => s.events.countP fun e => e.ackedAt.isNone

/-- Deletes the events that were acknowledged more than a number of seconds ago, and gives their
number. -/
def purgeAcked (age now : Binary64) : Run Store Nat :=
  changing [.events] fun s =>
    let isOld (e : StoredEvent) : Bool := e.ackedAt.any fun time => time < now - age
    (s.events.countP isOld, { s with events := s.events.filter fun e => !isOld e })

/-! ### Repeated reports -/

/-- The least time for which a sighting is remembered. -/
def leastMemory : Binary64 := 60

/-- Whether an occurrence was reported inside the window; if not, this report is noted. -/
def seen (key : String) (window now : Binary64) : Run Store Bool :=
  changing [.eventDedup] fun s =>
    let isRepeat := match s.sightings.find? fun x => x.key == key with
      | none => false
      | some x => now - x.seenAt < window
    if isRepeat then (true, s)
    else
      let others := s.sightings.filter fun x => x.key != key
      let horizon := now - max window leastMemory
      (false, { s with
        sightings := (others ++ [Sighting.mk key now]).filter fun x =>
          !decide (x.seenAt < horizon) })

/-- Forgets every report. -/
def clearSightings : Run Store Unit :=
  changing [.eventDedup] fun s => ((), { s with sightings := [] })

end Store

end IssueDispatch
