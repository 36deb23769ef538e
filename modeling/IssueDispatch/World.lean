import IssueDispatch.Bus.Memory
import IssueDispatch.Store.Basic

/-!
# The world of a governor

What a governor reads and changes: a clock, the shared store, what is kept inside the process, which
governors run or are in the middle of a scan, and the state `ω` of the collaborators outside.  The
clock stands still while an operation runs.
-/

namespace IssueDispatch

/-- The number by which a governor of a process is known. -/
abbrev GovernorId := Nat

/-- The state of a process around a shared store. -/
structure World (ω : Type) where
  clock : Binary64
  store : Store := {}
  /-- Overrides that are kept in the process. -/
  overrides : List Override := []
  bus : MemoryBus := {}
  /-- Whether this process has closed its end of the stored bus. -/
  isStoredBusClosed : Bool := false
  /-- Reports of occurrences that are remembered in the process. -/
  sightings : List Sighting := []
  scanning : List GovernorId := []
  running : List GovernorId := []
  outside : ω

namespace World

variable {ω α : Type}

/-- The clock reading. -/
def now : Run (World ω) Binary64 := return (← get).clock

/-- Runs an operation of the store. -/
def onStore (x : Run Store α) : Run (World ω) α :=
  x.onPart World.store fun store w => { w with store }

/-- Runs an operation of the store at the clock reading. -/
def onStoreNow (x : Binary64 → Run Store α) : Run (World ω) α := do
  onStore (x (← now))

end World

end IssueDispatch
