import IssueDispatch.Bus
import Mathlib.Logic.Function.Basic
import Mathlib.Tactic.Lemma

/-!
# A bus with several ends

The stored bus has an end in every process that shares the store.  Each end can be closed on its
own, and all of them publish, read, acknowledge and purge the same rows.  A run is a list of calls
at the ends, each at a clock reading of its own; the calls are transactions, so they come one after
the other, but their clock readings need not be in order.

What a run has been asked and has answered is its history, the latest call first.  The definitions
of the second section read off from a history alone what has been published, delivered and
acknowledged, and so what the next reader should get.
-/

namespace IssueDispatch

/-! ## Calls -/

/-- What an end of the bus is asked to do.  To pull is to read the next row. -/
inductive BusCall where
  | publish (e : Event)
  | pull
  | ack (id : String)
  | purge (age : Binary64)
  | close
  | reopen

/-- What a call gives. -/
inductive BusAnswer where
  | published (id : String)
  | pulled (row? : Option (Nat × Option Value))
  | purged (count : Nat)
  | done

/-- Performs a call at one end. -/
def BusCall.perform {ω : Type} (visibility : Binary64) : BusCall → Run (World ω) BusAnswer
  | publish e => do return .published (← (Bus.stored visibility).publish e)
  | pull => do return .pulled (← World.onStoreNow (Store.deliverNext visibility))
  | ack id => do
    (Bus.stored visibility).ack id
    return .done
  | purge age => do return .purged (← World.onStoreNow (Store.purgeAcked age))
  | close => do
    (Bus.stored visibility).close
    return .done
  | reopen => do
    (Bus.stored visibility).reopen
    return .done

/-- A call at an end of the bus, at a clock reading. -/
structure BusTurn where
  port : Nat
  clock : Binary64
  call : BusCall

/-- A turn with the answer to its call. -/
structure BusRecord extends BusTurn where
  answer : Except Fault BusAnswer

/-- The stored bus with all its ends. -/
structure SharedBus where
  store : Store
  isClosed : Nat → Bool := fun _ => false

namespace SharedBus

/-- What an end of the bus sees. -/
def world (b : SharedBus) (port : Nat) (clock : Binary64) : World Unit where
  clock := clock
  store := b.store
  isStoredBusClosed := b.isClosed port
  outside := ()

/-- The answer to the call of a turn, and the bus after it. -/
def serve (visibility : Binary64) (b : SharedBus) (turn : BusTurn) :
    Except Fault BusAnswer × SharedBus :=
  let (answer, w) := turn.call.perform visibility (b.world turn.port turn.clock)
  (answer, {
    store := w.store
    isClosed := Function.update b.isClosed turn.port w.isStoredBusClosed })

/-- Serves some turns, the latest of which comes first in the list. -/
def run (visibility : Binary64) (b : SharedBus) : List BusTurn → List BusRecord × SharedBus
  | [] => ([], b)
  | turn :: turns =>
    let (history, b) := run visibility b turns
    let (answer, b) := b.serve visibility turn
    (⟨turn, answer⟩ :: history, b)

end SharedBus

/-! ## Histories -/

namespace BusRecord

/-- The event that has been published, with the number that its identifier writes. -/
def published? (r : BusRecord) : Option (Nat × Event) :=
  match r.call, r.answer with
  | .publish e, .ok (.published id) => some (Nat.ofDigitChars 10 id.toList 0, e)
  | _, _ => none

/-- The number and the payload of the row that has been delivered. -/
def delivered? (r : BusRecord) : Option (Nat × Option Value) :=
  match r.call, r.answer with
  | .pull, .ok (.pulled row?) => row?
  | _, _ => none

/-- The number that has been acknowledged. -/
def acked? (r : BusRecord) : Option Int :=
  match r.call, r.answer with
  | .ack id, .ok _ => (Value.str id).toInt.toOption
  | _, _ => none

end BusRecord

namespace BusHistory

/-- The events that have been published, with their numbers. -/
def publications (history : List BusRecord) : List (Nat × Event) :=
  history.filterMap BusRecord.published?

/-- An event of a number has been published. -/
def IsPublished (n : Nat) (history : List BusRecord) : Prop := ∃ e, (n, e) ∈ publications history

/-- When the event of a number has been delivered. -/
def deliveries (n : Nat) (history : List BusRecord) : List Binary64 :=
  history.filterMap fun r => if r.delivered?.any fun row => row.1 = n then some r.clock else none

/-- The event of a number has been acknowledged since it was published. -/
def IsAcked (n : Nat) : List BusRecord → Prop
  | [] => False
  | r :: history => (r.acked? = some (n : Int) ∧ IsPublished n history) ∨ IsAcked n history

/-- The event of a number may be delivered: it has been published, it has not been acknowledged, and
its last delivery, if any, is longer ago than the visibility timeout. -/
structure IsEligible (visibility now : Binary64) (n : Nat) (history : List BusRecord) : Prop where
  published : IsPublished n history
  unacked : ¬ IsAcked n history
  past : ∀ time ∈ (deliveries n history).head?, time < now - visibility

/-- What the next reader should get: the first event that may be delivered, if there is any. -/
def IsNext (visibility now : Binary64) (history : List BusRecord) :
    Option (Nat × Option Value) → Prop
  | none => ∀ n, ¬ IsEligible visibility now n history
  | some (n, payload) => IsEligible visibility now n history ∧
      (∃ e, (n, e) ∈ publications history ∧ payload = some e.toValue) ∧
      ∀ m, IsEligible visibility now m history → n ≤ m

/-- An end of the bus has been closed, and not opened again since. -/
def isShut (port : Nat) : List BusRecord → Bool
  | [] => false
  | r :: history =>
    match r.call with
    | .close => r.port == port || isShut port history
    | .reopen => r.port != port && isShut port history
    | _ => isShut port history

end BusHistory

end IssueDispatch
