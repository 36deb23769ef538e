import IssueDispatch.Proofs.Bus
import IssueDispatch.Proofs.Dispatch

/-!
# The progress of a governor

While the clock stands still, a governor that answers from the store changes little: it places
sessions, and overrides that are over go when they are read.  `World.Advances` says exactly how far
it has come: which issues have been asked about and which sessions have been placed, in this order.
Progress adds up, and what has been placed and read is all that one has to know of it.

The tracker is code from outside.  It is steady (`Tracker.Steady`) if it always gives the same
answers and never gives out a session id twice.
-/

namespace IssueDispatch

variable {ω α : Type}

/-! ## Overrides that have been read -/

/-- Rows that are kept or dropped by their keys are found, or not found, by their keys. -/
lemma find?_filter_of_key {ρ κ : Type} [DecidableEq κ] (key : ρ → κ) (rows : List ρ)
    (p : κ → Bool) (k : κ) :
    ((rows.filter fun x => p (key x)).find? fun x => key x == k) =
      if p k then rows.find? fun x => key x == k else none := by
  rw [List.find?_filter]
  cases hp : p k with
  | true =>
    rw [if_pos rfl]
    congr 1
    funext x
    by_cases hx : key x = k
    · simp [hx, hp]
    · simp [hx]
  | false =>
    rw [if_neg Bool.false_ne_true, List.find?_eq_none]
    intro x _ hx
    simp only [decide_eq_true_eq, beq_iff_eq] at hx
    rw [hx.2, hp] at hx
    exact Bool.false_ne_true hx.1

namespace OverrideShelf

/-- Whether the override kept for an issue is over. -/
def hasLapsed (os : List Override) (now : Binary64) (issueId : String) : Bool :=
  (os.find? fun o => o.issueId == issueId).any fun o => o.isExpired now

/-- What is kept of some overrides once those of some issues have been read. -/
def afterReading (os : List Override) (now : Binary64) (ids : List String) : List Override :=
  os.filter fun o => !(ids.contains o.issueId && hasLapsed os now o.issueId)

variable {os : List Override} {now : Binary64} {ids ids' : List String}

lemma afterReading_find? (os : List Override) (now : Binary64) (ids : List String)
    (issueId : String) :
    ((afterReading os now ids).find? fun o => o.issueId == issueId) =
      if ids.contains issueId && hasLapsed os now issueId then none
      else os.find? fun o => o.issueId == issueId := by
  rw [afterReading, find?_filter_of_key Override.issueId os
    fun id => !(ids.contains id && hasLapsed os now id)]
  cases ids.contains issueId && hasLapsed os now issueId <;> rfl

@[simp] lemma afterReading_nil (os : List Override) (now : Binary64) :
    afterReading os now [] = os := by
  simp [afterReading]

/-- What has been read matters, but not in which order or how often. -/
lemma afterReading_congr (h : ∀ id, id ∈ ids ↔ id ∈ ids') :
    afterReading os now ids = afterReading os now ids' := by
  have hcontains (id : String) : ids.contains id = ids'.contains id := by
    rw [Bool.eq_iff_iff, List.contains_iff_mem, List.contains_iff_mem]
    exact h id
  simp only [afterReading, hcontains]

lemma hasLapsed_afterReading (os : List Override) (now : Binary64) (ids : List String)
    (issueId : String) :
    hasLapsed (afterReading os now ids) now issueId =
      (!ids.contains issueId && hasLapsed os now issueId) := by
  rw [hasLapsed, afterReading_find?]
  cases hcontains : ids.contains issueId with
  | false => simp [hasLapsed]
  | true =>
    cases hlapsed : hasLapsed os now issueId with
    | false => simpa [hasLapsed] using hlapsed
    | true => simp

/-- One reading after the other is one reading. -/
lemma afterReading_afterReading :
    afterReading (afterReading os now ids) now ids' = afterReading os now (ids ++ ids') := by
  have htwice (o : Override) :
      (!(ids'.contains o.issueId && hasLapsed (afterReading os now ids) now o.issueId) &&
        !(ids.contains o.issueId && hasLapsed os now o.issueId)) =
      !((ids ++ ids').contains o.issueId && hasLapsed os now o.issueId) := by
    rw [hasLapsed_afterReading]
    by_cases hfirst : o.issueId ∈ ids
    · simp [hfirst]
    · simp [hfirst]
  calc afterReading (afterReading os now ids) now ids'
      = (os.filter fun o => !(ids.contains o.issueId && hasLapsed os now o.issueId)).filter
          fun o => !(ids'.contains o.issueId &&
            hasLapsed (afterReading os now ids) now o.issueId) := rfl
    _ = os.filter fun o => !(ids'.contains o.issueId &&
            hasLapsed (afterReading os now ids) now o.issueId) &&
          !(ids.contains o.issueId && hasLapsed os now o.issueId) := List.filter_filter
    _ = afterReading os now (ids ++ ids') := List.filter_congr fun o _ => htwice o

/-- Reading changes nothing that is in force. -/
lemma current_afterReading (os : List Override) (now : Binary64) (ids : List String)
    (issueId : String) :
    current (afterReading os now ids) now issueId = current os now issueId := by
  rw [current, afterReading_find?, current]
  split
  · rename_i hgone
    rw [Bool.and_eq_true, hasLapsed, Option.any_eq_true] at hgone
    obtain ⟨o, ho, hover⟩ := hgone.2
    rw [ho, Option.filter_some, hover]
    rfl
  · rfl

end OverrideShelf

/-! ## Steady trackers -/

/-- Nothing but the state outside has changed, and nothing that was used is unused again. -/
def World.UsesUp (Unused : ω → String → Prop) (w w' : World ω) : Prop :=
  ∃ o, w' = { w with outside := o } ∧ ∀ id, Unused o id → Unused w.outside id

/-- A question to the outside that always has the same answer. -/
def Run.Yields (Unused : ω → String → Prop) (x : Run (World ω) α) (answer : Except Fault α) :
    Prop :=
  ∀ w, ∃ w', x w = (answer, w') ∧ w.UsesUp Unused w'

/-- A tracker that always answers the same and gives out each session id only once.  Answers may be
faults, but there is always another session id. -/
structure Tracker.Steady (t : Tracker ω) where
  listing : Value → Except Fault (List Issue)
  parent : String → Except Fault Bool
  promptFor : Issue → String → Except Fault (Option String)
  /-- The session ids that have not been given out. -/
  Unused : ω → String → Prop
  listIssues : ∀ project,
    Run.Yields Unused (t.listIssues project) ((listing project).map some)
  isParentIssue : ∀ issueId,
    Run.Yields Unused (t.isParentIssue.elim (return false) fun check => check issueId)
      (parent issueId)
  prompt : ∀ issue workType,
    Run.Yields Unused (t.prompt issue workType) (promptFor issue workType)
  newSessionId : ∀ w, ∃ id w', t.newSessionId w = (.ok id, w') ∧ w.UsesUp Unused w' ∧
    Unused w.outside id ∧ ¬ Unused w'.outside id

/-! ## Placements -/

/-- What a session is for: its issue, the kind of work, and its priority. -/
abbrev Errand := String × Option String × Option Int

/-- What a session is for. -/
def Session.errand (x : Session) : Errand := (x.issueId, x.workType, x.priority)

/-- A session that has been recorded together with its work. -/
structure Placement where
  issue : Issue
  workType : String
  sessionId : String
  rank : Nat
  prompt : Option String

namespace Placement

/-- The record of the session. -/
def session (p : Placement) (now : Binary64) : Session :=
  StoreBacked.placedSession p.issue p.workType p.sessionId p.rank now

/-- The work that has been queued. -/
def work (p : Placement) (now : Binary64) : Work :=
  StoreBacked.newWork p.issue p.sessionId p.workType p.rank p.prompt now

/-- What the session is for. -/
def errand (p : Placement) : Errand := (p.issue.id, some p.workType, some p.rank)

lemma map_session_errand (ps : List Placement) (now : Binary64) :
    (ps.map fun p => p.session now).map Session.errand = ps.map errand := by
  rw [List.map_map]
  rfl

end Placement

/-! ## Progress -/

/-- How far a governor has come: it has read the overrides of some issues and has placed some
sessions. -/
structure World.Advances {b : StoreBacked ω} (steady : b.tracker.Steady) (w : World ω)
    (ids : List String) (ps : List Placement) (w' : World ω) : Prop where
  clock : w'.clock = w.clock
  missing : w'.store.missing = w.store.missing
  workflow : w'.store.workflow = w.store.workflow
  touchpoints : w'.store.touchpoints = w.store.touchpoints
  lastTouchpoint : w'.store.lastTouchpoint = w.store.lastTouchpoint
  phases : w'.store.phases = w.store.phases
  sessions : w'.store.sessions = w.store.sessions ++ ps.map fun p => p.session w.clock
  queue : w'.store.queue = w.store.queue ++ ps.map fun p => p.work w.clock
  kept : ∀ shelf : OverrideShelf, shelf.kept w' =
    if shelf = b.shelf then OverrideShelf.afterReading (shelf.kept w) w.clock ids else shelf.kept w
  /-- No session id that a placement has taken is unused. -/
  unused : ∀ id, steady.Unused w'.outside id →
    steady.Unused w.outside id ∧ ∀ p ∈ ps, p.sessionId ≠ id

/-- The tables are there, the clock shows a number, and the session ids to come are new. -/
structure World.IsReady {b : StoreBacked ω} (steady : b.tracker.Steady) (w : World ω) : Prop where
  missing : w.store.missing = []
  clock : w.clock.isNaN = false
  fresh : ∀ id, steady.Unused w.outside id →
    w.store.findSession id = none ∧ w.store.hasQueued id = false

namespace World.Advances

variable {b : StoreBacked ω} {steady : b.tracker.Steady} {w w' w'' : World ω}
  {ids ids' : List String} {ps ps' : List Placement}

protected lemma trans (h : w.Advances steady ids ps w') (h' : w'.Advances steady ids' ps' w'') :
    w.Advances steady (ids ++ ids') (ps ++ ps') w'' where
  clock := h'.clock.trans h.clock
  missing := h'.missing.trans h.missing
  workflow := h'.workflow.trans h.workflow
  touchpoints := h'.touchpoints.trans h.touchpoints
  lastTouchpoint := h'.lastTouchpoint.trans h.lastTouchpoint
  phases := h'.phases.trans h.phases
  sessions := by
    rw [h'.sessions, h.sessions, h.clock, List.map_append, List.append_assoc]
  queue := by
    rw [h'.queue, h.queue, h.clock, List.map_append, List.append_assoc]
  kept shelf := by
    rw [h'.kept, h.kept, h.clock]
    split
    · exact OverrideShelf.afterReading_afterReading
    · rfl
  unused id hid := by
    obtain ⟨hid, hps'⟩ := h'.unused id hid
    obtain ⟨hid, hps⟩ := h.unused id hid
    exact ⟨hid, List.forall_mem_append.2 ⟨hps, hps'⟩⟩

/-- Only the issues that have been asked about matter, not how often and in which order. -/
lemma of_mem_iff (h : w.Advances steady ids ps w') (hids : ∀ id, id ∈ ids ↔ id ∈ ids') :
    w.Advances steady ids' ps w' := by
  refine { h with kept := fun shelf => ?_ }
  rw [h.kept, OverrideShelf.afterReading_congr hids]

/-- Where nothing else changes but the stored bus, progress is what becomes of the overrides. -/
lemma of_kept (hclock : w'.clock = w.clock)
    (hstore : w'.store = { w.store with
      overrides := w'.store.overrides, events := w'.store.events, lastEvent := w'.store.lastEvent })
    (hkept : ∀ shelf : OverrideShelf, shelf.kept w' =
      if shelf = b.shelf then OverrideShelf.afterReading (shelf.kept w) w.clock ids
      else shelf.kept w)
    (hunused : ∀ id, steady.Unused w'.outside id → steady.Unused w.outside id) :
    w.Advances steady ids [] w' where
  clock := hclock
  missing := by rw [hstore]
  workflow := by rw [hstore]
  touchpoints := by rw [hstore]
  lastTouchpoint := by rw [hstore]
  phases := by rw [hstore]
  sessions := by
    rw [hstore]
    exact (List.append_nil _).symm
  queue := by
    rw [hstore]
    exact (List.append_nil _).symm
  kept := hkept
  unused id hid := ⟨hunused id hid, fun p hp => absurd hp List.not_mem_nil⟩

/-- What changes neither the overrides nor anything in the store but the bus is no progress. -/
lemma of_eq (hclock : w'.clock = w.clock)
    (hstore : w'.store =
      { w.store with events := w'.store.events, lastEvent := w'.store.lastEvent })
    (hoverrides : w'.overrides = w.overrides)
    (hunused : ∀ id, steady.Unused w'.outside id → steady.Unused w.outside id) :
    w.Advances steady [] [] w' := by
  refine .of_kept hclock ?_ (fun shelf => ?_) hunused
  · rw [hstore]
  · rw [OverrideShelf.afterReading_nil, ite_self]
    cases shelf with
    | shared => rw [OverrideShelf.kept, hstore]; rfl
    | inProcess => exact hoverrides

protected lemma refl (w : World ω) : w.Advances steady [] [] w :=
  .of_eq rfl rfl rfl fun _ h => h

lemma of_usesUp (h : w.UsesUp steady.Unused w') : w.Advances steady [] [] w' := by
  obtain ⟨o, rfl, hunused⟩ := h
  exact .of_eq rfl rfl rfl hunused

/-- What happens on a bus is no progress. -/
lemma of_onlyBus (h : w.OnlyBus w') : w.Advances steady [] [] w' := by
  have hstore := h.store
  refine .of_eq ?_ ?_ ?_ fun id hid => ?_
  · rw [h.frame]
  · rw [hstore]
  · rw [h.frame]
  · rwa [h.frame] at hid

lemma inForce (h : w.Advances steady ids ps w') (shelf : OverrideShelf) (issueId : String) :
    shelf.inForce w' issueId = shelf.inForce w issueId := by
  rw [OverrideShelf.inForce, OverrideShelf.inForce, h.kept, h.clock]
  split
  · exact OverrideShelf.current_afterReading _ _ _ _
  · rfl

/-- An issue is busy if it was so before or a session has been placed for it. -/
lemma isBusy (h : w.Advances steady ids ps w') (issueId : String) :
    w'.store.isBusy issueId =
      (w.store.isBusy issueId || ps.any fun p => issueId == p.issue.id) := by
  have hplaced : ((ps.map fun p => p.session w.clock).any fun x =>
      x.issueId == issueId && x.status.isActive) = ps.any fun p => issueId == p.issue.id := by
    rw [List.any_map]
    refine congrArg ps.any (funext fun p => ?_)
    change (p.issue.id == issueId && true) = (issueId == p.issue.id)
    rw [Bool.and_true, Bool.eq_iff_iff, beq_iff_eq, beq_iff_eq, eq_comm]
  rw [Store.isBusy, h.sessions, List.any_append, hplaced]
  rfl

/-- Whoever is ready stays so. -/
lemma isReady (h : w.Advances steady ids ps w') (hready : w.IsReady steady) :
    w'.IsReady steady where
  missing := h.missing.trans hready.missing
  clock := by
    rw [h.clock]
    exact hready.clock
  fresh id hid := by
    obtain ⟨hid, hps⟩ := h.unused id hid
    obtain ⟨hsession, hqueue⟩ := hready.fresh id hid
    constructor
    · rw [Store.findSession, h.sessions, List.find?_append,
        show w.store.sessions.find? _ = none from hsession, Option.none_or, List.find?_eq_none]
      intro x hx hxid
      obtain ⟨p, hp, rfl⟩ := List.mem_map.1 hx
      exact hps p hp (beq_iff_eq.1 hxid)
    · rw [Store.hasQueued, h.queue, List.any_append, show w.store.queue.any _ = false from hqueue,
        Bool.false_or, List.any_eq_false]
      intro x hx hxid
      obtain ⟨p, hp, rfl⟩ := List.mem_map.1 hx
      exact hps p hp (beq_iff_eq.1 hxid)

end World.Advances

end IssueDispatch
