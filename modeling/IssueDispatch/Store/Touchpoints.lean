import IssueDispatch.Store.Basic

/-!
# Stored touchpoints

Posted touchpoints, so that windows outlive the process that opened them.  A touchpoint is open
until a human responds or it is proceeded without one.
-/

namespace IssueDispatch

namespace Touchpoint

/-- Whether a touchpoint still waits for an answer. -/
def isOpen (t : Touchpoint) : Bool := t.respondedAt.isNone && t.autoProceededAt.isNone

/-- A touchpoint as it was posted. -/
def toNotification (t : Touchpoint) : Notification :=
  { kind := t.kind
    issueId := t.issueId
    body := t.body
    postedAt := t.postedAt
    timeout := t.timeout.getD (.infinity false)
    respondedAt := t.respondedAt
    id := some t.id }

end Touchpoint

namespace Store

/-- Keeps a notification under an issue and gives it its number. -/
def saveTouchpoint (issueId : String) (n : Notification) : Run Store Notification :=
  .atomically do
    requireTable .touchpoints
    if n.postedAt.isNaN then throw (.missingValue "touchpoints.posted_at")
    modifyGet fun s =>
      let id : Nat := s.lastTouchpoint + 1
      ({ n with id := some id }, { s with
        lastTouchpoint := id
        touchpoints := s.touchpoints ++ [{
          id, issueId, kind := n.kind, body := n.body, postedAt := n.postedAt
          timeout := if n.timeout.isFinite then some n.timeout else none }] })

/-- The open touchpoints, of one issue or of all, in the order in which they were posted. -/
def openTouchpoints (s : Store) (issueId : Option String) : List Touchpoint :=
  let chosen := s.touchpoints.filter fun t =>
    t.isOpen && (match issueId with
      | none | some "" => true
      | some id => t.issueId == id)
  chosen.mergeSort fun a b => a.postedAt.le b.postedAt

/-- The open touchpoints, of one issue or of all, in the order in which they were posted. -/
def pendingTouchpoints (issueId : Option String) : Run Store (List Notification) :=
  reading [.touchpoints] fun s => (s.openTouchpoints issueId).map Touchpoint.toNotification

/-- Marks the open touchpoints of an issue as answered and gives their number. -/
def markResponded (issueId : String) (time : Binary64) : Run Store Nat :=
  changing [.touchpoints] fun s =>
    let hit (t : Touchpoint) : Bool := t.issueId == issueId && t.isOpen
    (s.touchpoints.countP hit, { s with
      touchpoints := s.touchpoints.map fun t =>
        if hit t then { t with respondedAt := kept time } else t })

/-- Marks a touchpoint as proceeded without an answer. -/
def markAutoProceeded (id : Int) (time : Binary64) : Run Store Unit := .atomically do
  requireTable .touchpoints
  requireInteger id
  modify fun s => { s with
    touchpoints := s.touchpoints.map fun t =>
      if (t.id : Int) = id then { t with autoProceededAt := kept time } else t }

end Store

end IssueDispatch
