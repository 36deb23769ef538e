import IssueDispatch.Event
import IssueDispatch.Run

/-!
# The bus of one process

A queue of events inside one process.  Closing the bus puts an end mark behind the events; a reader
that meets the mark puts it back, so that every other reader meets it too.  Reopening takes the
marks away and keeps the events that have not been read.
-/

namespace IssueDispatch

/-- What stands in the queue of a bus. -/
inductive BusItem where
  | event (id : String) (e : Event)
  | endMark

/-- What a reader gets from a bus: an event with its identifier, the end of the bus, or nothing for
now.  The fields of an event that comes from a payload may be of other kinds than an event has; then
the reader gets the fields. -/
inductive Delivery where
  | event (id : String) (e : Event)
  | untyped (id : String) (kind : EventKind) (fields : List (String × Value))
  | ended
  | waiting

/-- A bus inside one process. -/
structure MemoryBus where
  items : List BusItem := []
  isClosed : Bool := false
  published : Nat := 0
  acked : List String := []

/-- The event of an item. -/
def BusItem.event? : BusItem → Option (String × Event)
  | .event id e => some (id, e)
  | .endMark => none

namespace MemoryBus

/-- The events that wait, in the order in which they were published. -/
def pending (b : MemoryBus) : List (String × Event) := b.items.filterMap BusItem.event?

/-- Publishes an event under a new identifier.  A closed bus takes none. -/
def publish (e : Event) : Transaction MemoryBus String := fun b =>
  if b.isClosed then .error .busClosed
  else
    let n := b.published + 1
    let id := "mem-" ++ toString n
    .ok (id, { b with published := n, items := b.items ++ [.event id e] })

/-- Reads the next item. -/
def next (b : MemoryBus) : Delivery × MemoryBus :=
  match b.items with
  | [] => (.waiting, b)
  | .event id e :: items => (.event id e, { b with items })
  | .endMark :: items => (.ended, { b with items := items ++ [.endMark] })

/-- Notes that an event has been handled. -/
def ack (id : String) (b : MemoryBus) : MemoryBus :=
  if b.acked.contains id then b else { b with acked := b.acked ++ [id] }

/-- Closes the bus. -/
def close (b : MemoryBus) : MemoryBus :=
  if b.isClosed then b else { b with isClosed := true, items := b.items ++ [.endMark] }

/-- Opens a closed bus again. -/
def reopen (b : MemoryBus) : MemoryBus :=
  if b.isClosed then
    { b with
      isClosed := false
      items := b.items.filter fun x => (BusItem.event? x).isSome }
  else b

/-- Publishing puts an event behind those that wait. -/
theorem pending_publish {b b' : MemoryBus} {e : Event} {id : String}
    (h : publish e b = .ok (id, b')) : b'.pending = b.pending ++ [(id, e)] := by
  unfold publish at h
  split at h
  · exact nomatch h
  · have h := Except.ok.inj h
    obtain ⟨rfl, rfl⟩ := Prod.mk.inj h
    simp [pending, BusItem.event?]

/-- Reading an event takes it from the front of those that wait. -/
theorem pending_of_next {b b' : MemoryBus} {e : Event} {id : String}
    (h : next b = (.event id e, b')) : b.pending = (id, e) :: b'.pending := by
  obtain ⟨items, isClosed, published, acked⟩ := b
  cases items with
  | nil => exact nomatch (Prod.mk.inj h).1
  | cons x items =>
    cases x with
    | event id e =>
      obtain ⟨same, rfl⟩ := Prod.mk.inj h
      obtain ⟨rfl, rfl⟩ := Delivery.event.inj same
      simp [pending, BusItem.event?]
    | endMark => exact nomatch (Prod.mk.inj h).1

@[simp] theorem pending_close (b : MemoryBus) : b.close.pending = b.pending := by
  unfold close
  split <;> simp [pending, BusItem.event?]

@[simp] theorem pending_reopen (b : MemoryBus) : b.reopen.pending = b.pending := by
  unfold reopen
  split
  · simp only [pending, List.filterMap_filter]
    congr 1
    funext x
    cases x <;> rfl
  · rfl

end MemoryBus

end IssueDispatch
