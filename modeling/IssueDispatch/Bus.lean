import IssueDispatch.Store.Events
import IssueDispatch.World

/-!
# Buses

Events reach a governor through the bus of its process or through the one in the shared store.  The
stored bus hides a delivered event for its visibility timeout, drops payloads that are no events,
and delivers nothing once it is closed.
-/

namespace IssueDispatch

/-- Where events come from. -/
inductive Bus where
  | inProcess
  | stored (visibility : Binary64)
deriving DecidableEq

namespace Bus

variable {ω : Type}

/-- Changes the bus of the process. -/
def onMemory {α : Type} (x : Run MemoryBus α) : Run (World ω) α :=
  x.onPart World.bus fun bus w => { w with bus }

/-- Whether the bus is closed. -/
def isClosed (b : Bus) : Run (World ω) Bool :=
  match b with
  | inProcess => return (← get).bus.isClosed
  | stored _ => return (← get).isStoredBusClosed

/-- Publishes an event and gives its identifier.  A closed bus takes none. -/
def publish (b : Bus) (e : Event) : Run (World ω) String :=
  match b with
  | inProcess => onMemory (.atomically (MemoryBus.publish e))
  | stored _ => do
    if (← get).isStoredBusClosed then throw .busClosed
    return toString (← World.onStoreNow (Store.publishEvent e))

/-- Notes that an event has been handled.  The stored bus numbers its events. -/
def ack (b : Bus) (id : String) : Run (World ω) Unit :=
  match b with
  | inProcess => onMemory (modify (MemoryBus.ack id))
  | stored _ => do
    let n ← Run.ofExcept (Value.str id).toInt
    World.onStoreNow (Store.ackEvent n)

/-- Whether an event is known to have been handled. -/
def isAcked (b : Bus) (id : String) : Run (World ω) Bool := do
  let w ← get
  match b with
  | inProcess => return w.bus.acked.contains id
  | stored _ => return w.store.events.any fun e => toString e.id == id && e.ackedAt.isSome

/-- Closes the bus. -/
def close (b : Bus) : Run (World ω) Unit :=
  match b with
  | inProcess => onMemory (modify MemoryBus.close)
  | stored _ => modify fun w => { w with isStoredBusClosed := true }

/-- Opens a closed bus again. -/
def reopen (b : Bus) : Run (World ω) Unit :=
  match b with
  | inProcess => onMemory (modify MemoryBus.reopen)
  | stored _ => modify fun w => { w with isStoredBusClosed := false }

/-- Whether a fault of decoding means that a payload is no event at all. -/
def isUndecodable : Fault → Bool
  | .malformedEvent _ | .unreadableNumber _ | .unreadableInteger _ | .unreadableTime _
  | .unreadableJson => true
  | _ => false

/-- The kind and the fields of the event that a payload stands for. -/
def decodePayload (now : Binary64) (payload : Option Value) :
    Except Fault (EventKind × List (String × Value)) :=
  payload.elim (.error .unreadableJson) (Event.canonicalFields now)

/-- An event as it is handed to a reader. -/
def delivery (id : Nat) (kind : EventKind) (fields : List (String × Value)) : Delivery :=
  match Event.ofFields kind fields with
  | .ok e => .event (toString id) e
  | .error _ => .untyped (toString id) kind fields

/-- Reads the next stored event.  Payloads that are no events are acknowledged and passed over; each
of them uses up one unit of fuel. -/
def nextStored (fuel : Nat) (visibility : Binary64) : Run (World ω) Delivery :=
  match fuel with
  | 0 => return .waiting
  | fuel + 1 => do
    match ← World.onStoreNow (Store.deliverNext visibility) with
    | none => return .waiting
    | some (id, payload) =>
      let now ← World.now
      match decodePayload now payload with
      | .ok (kind, fields) => return delivery id kind fields
      | .error fault =>
        if isUndecodable fault then
          World.onStoreNow (Store.ackEvent id)
          nextStored fuel visibility
        else throw fault

/-- Reads the next event. -/
def next (b : Bus) : Run (World ω) Delivery :=
  match b with
  | inProcess => onMemory (modifyGet MemoryBus.next)
  | stored visibility => do
    let w ← get
    if w.isStoredBusClosed then return .ended
    nextStored (w.store.events.length + 1) visibility

/-- The number of events that wait or, in the store, are not acknowledged. -/
def pendingCount (b : Bus) : Run (World ω) Nat :=
  match b with
  | inProcess => return (← get).bus.pending.length
  | stored _ => World.onStore Store.pendingEvents

end Bus

end IssueDispatch
