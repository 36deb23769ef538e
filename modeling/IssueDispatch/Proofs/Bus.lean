import IssueDispatch.Bus
import IssueDispatch.Proofs.Store.Transactions

/-!
# What an acknowledgement does

Acknowledging an event changes nothing but the bus, be it the one of the process or the one in the
store.
-/

namespace IssueDispatch

variable {ω : Type}

@[simp] lemma Bus.onMemory_apply {α : Type} (x : Run MemoryBus α) (w : World ω) :
    onMemory x w = ((x w.bus).1, { w with bus := (x w.bus).2 }) := rfl

/-- Nothing but the stored bus has changed. -/
def Store.OnlyEvents (s s' : Store) : Prop := s' = { s with events := s'.events }

instance : IsPreorder Store Store.OnlyEvents where
  refl _ := rfl
  trans s t u h h' := by
    rw [Store.OnlyEvents, h', h]

/-- Nothing but the buses has changed. -/
structure World.OnlyBus (w w' : World ω) : Prop where
  store : w.store.OnlyEvents w'.store
  frame : w' = { w with store := w'.store, bus := w'.bus }

lemma Store.ackEvent_keeps (id : Int) (now : Binary64) : (ackEvent id now).Keeps OnlyEvents := by
  refine Transaction.Keeps.atomically (.after (.after (Transaction.modify_keeps ?_) ?_) ?_)
  · exact fun s => rfl
  · exact fun _ _ _ => eq_of_requireInteger
  · exact fun _ _ _ => eq_of_requireTable

/-- Acknowledging an event changes nothing but the buses. -/
lemma Bus.ack_keeps (bus : Bus) (id : String) :
    (bus.ack id : Run (World ω) Unit).Keeps World.OnlyBus := by
  intro w
  cases bus with
  | inProcess => exact ⟨rfl, rfl⟩
  | stored visibility =>
    rw [ack]
    rcases hid : (Value.str id).toInt with e | n
    · exact ⟨rfl, rfl⟩
    · exact ⟨Store.ackEvent_keeps n w.clock w.store, rfl⟩

end IssueDispatch
