import IssueDispatch.Store.Events
import IssueDispatch.World

/-!
# Repeated reports

One occurrence may be reported more than once.  A deduplicator answers whether an occurrence was
reported inside a window before now, and notes the report if not, so that repeats never extend the
window.  Reports are remembered in the process or in the shared store.
-/

namespace IssueDispatch

/-- Where reports are remembered, and the window that applies unless another one is given. -/
inductive Dedup where
  | inProcess (window : Binary64)
  | stored (window : Binary64)
deriving DecidableEq

namespace Dedup

variable {ω : Type}

/-- The window that applies unless another one is given. -/
def window : Dedup → Binary64
  | inProcess window | stored window => window

/-- The reports that are less than a window ago. -/
def recent (now window : Binary64) (sightings : List Sighting) : List Sighting :=
  sightings.filter fun x => !window.le (now - x.seenAt)

/-- Whether an occurrence was reported inside the window; if not, this report is noted.  Reports
outside both this window and the usual one are forgotten. -/
def seenHere (key : String) (window usual now : Binary64) (sightings : List Sighting) :
    Bool × List Sighting :=
  let sightings := recent now (max window usual) sightings
  match sightings.find? fun x => x.key == key with
  | some x =>
    if now - x.seenAt < window then (true, sightings)
    else (false, sightings.map fun x => if x.key == key then { x with seenAt := now } else x)
  | none => (false, sightings ++ [⟨key, now⟩])

/-- Whether an occurrence was reported inside the window; if not, this report is noted. -/
def seen (d : Dedup) (key : String) (window? : Option Binary64) : Run (World ω) Bool := do
  let window := window?.getD d.window
  match d with
  | inProcess usual =>
    modifyGet fun w =>
      let (isRepeat, sightings) := seenHere key window usual w.clock w.sightings
      (isRepeat, { w with sightings })
  | stored _ => World.onStoreNow (Store.seen key window)

/-- Forgets every report. -/
def clear (d : Dedup) : Run (World ω) Unit :=
  match d with
  | inProcess _ => modify fun w => { w with sightings := [] }
  | stored _ => World.onStore Store.clearSightings

/-- The number of reports that are remembered in the process. -/
def size (d : Dedup) : Run (World ω) Nat := modifyGet fun w =>
  let sightings := recent w.clock d.window w.sightings
  (sightings.length, { w with sightings })

end Dedup

end IssueDispatch
