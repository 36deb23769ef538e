import IssueDispatch.Store.Overrides
import IssueDispatch.World

/-!
# Overrides in force

Overrides are kept in the shared store or in the process; both places behave alike.  An override
that has expired is removed when it is next read, and reads as none.
-/

namespace IssueDispatch

/-- Where overrides are kept. -/
inductive OverrideShelf where
  | shared
  | inProcess
deriving DecidableEq, Repr

namespace OverrideShelf

variable {ω : Type}

/-- The override kept for an issue, expired or not. -/
def find (shelf : OverrideShelf) (issueId : String) : Run (World ω) (Option Override) :=
  match shelf with
  | shared => World.onStore (Store.getOverride issueId)
  | inProcess => return (← get).overrides.find? fun o => o.issueId == issueId

/-- Keeps an override in place of any that its issue had. -/
def put (shelf : OverrideShelf) (o : Override) : Run (World ω) Unit :=
  match shelf with
  | shared => World.onStore (Store.putOverride o)
  | inProcess => modify fun w => { w with
      overrides := (w.overrides.filter fun x => x.issueId != o.issueId) ++ [o] }

/-- Removes the override of an issue. -/
def clear (shelf : OverrideShelf) (issueId : String) : Run (World ω) Unit :=
  match shelf with
  | shared => World.onStore (Store.removeOverride issueId)
  | inProcess => modify fun w => { w with
      overrides := w.overrides.filter fun o => o.issueId != issueId }

/-- The override in force for an issue. -/
def get (shelf : OverrideShelf) (issueId : String) : Run (World ω) (Option Override) := do
  match ← shelf.find issueId with
  | none => return none
  | some o =>
    if o.isExpired (← World.now) then
      shelf.clear issueId
      return none
    else return some o

/-- Puts a directive in force, for a number of seconds or until it is cleared. -/
def set (shelf : OverrideShelf) (issueId : String) (directive : Directive)
    (lasting : Option Binary64) : Run (World ω) Override := do
  let o := Override.ofDirective issueId directive lasting (← World.now)
  shelf.put o
  return o

/-- Whether a directive of a kind is in force for an issue. -/
def hasDirective (shelf : OverrideShelf) (issueId : String) (kind : DirectiveKind) :
    Run (World ω) Bool := do
  return (← shelf.get issueId).any (·.orders kind)

/-- Whether an issue is paused. -/
def isHeld (shelf : OverrideShelf) (issueId : String) : Run (World ω) Bool :=
  shelf.hasDirective issueId .hold

/-- The priority in force for an issue. -/
def priority (shelf : OverrideShelf) (issueId : String) :
    Run (World ω) (Option OverridePriority) := do
  return (← shelf.get issueId).bind Override.priority?

end OverrideShelf

end IssueDispatch
