import IssueDispatch.Proofs.Bus
import IssueDispatch.Proofs.Decision
import IssueDispatch.Proofs.Governor.Questions
import IssueDispatch.Proofs.Governor.Steering
import Mathlib.Logic.Relation

/-!
# The moves of a governor

What a governor does in one step is a path of moves.  It lists the issues of projects, or is shown
one by an event; it evaluates issues as they have been shown to it; and it creates sessions as it
has decided.  A `Stage` holds what it has learnt since the step began, so that each session goes
back to a snapshot of its issue and to the decision that was made about it.  Quiet moves change
nothing that a decision or a dispatch depends on.

`Governor.Clears` collects what has to hold of an issue at the moment when a session is created for
it, apart from the issue being idle.  A creation only touches sessions and the queue, so an issue
that has been cleared stays cleared while other issues, or the same issue in another project, are
dispatched before it.

Before the first session is created a step may follow a directive, proceed with touchpoints and note
a report; none of that touches the clock or any work.
-/

namespace IssueDispatch

variable {ω α : Type}

namespace World

/-- Nothing that a decision or a dispatch depends on has changed. -/
structure SameFacts (w w' : World ω) : Prop where
  clock : w'.clock = w.clock
  queue : w'.store.queue = w.store.queue
  claims : w'.store.claims = w.store.claims
  sessions : w'.store.sessions = w.store.sessions
  workflow : w'.store.workflow = w.store.workflow
  touchpoints : w'.store.touchpoints = w.store.touchpoints
  phases : w'.store.phases = w.store.phases
  inForce : ∀ (shelf : OverrideShelf) issueId, shelf.inForce w' issueId = shelf.inForce w issueId

/-- What leaves only lapsed overrides behind leaves all facts as they are. -/
lemma SameFacts.of_onlyLapsed {w w' : World ω} (h : OnlyLapsed w w') : SameFacts w w' where
  clock := h.clock
  queue := h.queue
  claims := h.claims
  sessions := h.sessions
  workflow := h.workflow
  touchpoints := h.touchpoints
  phases := by rw [h.frame]
  inForce := h.inForce

/-- Buses hold no facts about issues. -/
lemma SameFacts.of_onlyBus {w w' : World ω} (h : OnlyBus w w') : SameFacts w w' := by
  have hinForce (shelf : OverrideShelf) (issueId : String) :
      shelf.inForce w' issueId = shelf.inForce w issueId := by
    cases shelf with
    | shared => rw [OverrideShelf.inForce, OverrideShelf.kept, h.frame, h.store]; rfl
    | inProcess => rw [OverrideShelf.inForce, OverrideShelf.kept, h.frame]; rfl
  refine ⟨?_, ?_, ?_, ?_, ?_, ?_, ?_, hinForce⟩
  · rw [h.frame]
  all_goals rw [h.store]

end World

/-- The rank of the priority override in force for an issue. -/
def StoreBacked.rankInForce (b : StoreBacked ω) (w : World ω) (issueId : String) : Nat :=
  OverridePriority.rank ((b.shelf.inForce w issueId).bind Override.priority?)

/-- The store after a session has been created for an issue.  The record carries the rank of the
priority in force.  Its work is queued with the same rank, or the session has failed at once because
its work could not be queued. -/
inductive StoreBacked.Creates (b : StoreBacked ω) (issue : Issue) (workType : String)
    (w : World ω) : Store → Prop
  | queued (sessionId : String) (prompt : Option String) : b.Creates issue workType w
      ((w.store.withSession (placedSession issue workType sessionId (b.rankInForce w issue.id)
        w.clock)).withWork
          (newWork issue sessionId workType (b.rankInForce w issue.id) prompt w.clock))
  | unqueued (sessionId error : String) : b.Creates issue workType w
      (w.store.withSession (failedSession issue workType sessionId (b.rankInForce w issue.id)
        w.clock error))

namespace Governor

/-- What allows a governor to take an action on an issue that is idle. -/
structure Clears (g : Governor ω) (b : StoreBacked ω) (issue : Issue) (action : Action)
    (w : World ω) : Prop where
  /-- Neither a hold nor a reassignment is in force. -/
  notHeld : ∀ o, b.shelf.inForce w issue.id = some o →
    o.orders .hold = false ∧ o.orders .reassign = false
  /-- No failure on record is less than the cooldown ago. -/
  notFailedLately : ∀ x, w.store.workflow.find? (fun x => x.issueId == issue.id) = some x →
    ∀ failedAt, x.qaFailedAt = some failedAt →
      ∃ cooldown, b.settings.qaCooldown.number? = some cooldown ∧
        (Number.float (w.clock - failedAt)).lt cooldown = false
  notTerminal : g.settings.statuses.isTerminal issue.status = false
  notStarted : g.settings.statuses.started.names issue.status = false
  /-- Where a response is asked for, no touchpoint with a finite window is open and inside it. -/
  answered : g.escalation.isSome = true → action = .triggerRefinement ∨ action = .decompose →
    ∀ t ∈ w.store.touchpoints, t.issueId = issue.id → t.isOpen = true →
      ∀ window, t.timeout = some window → window.isFinite = true →
        t.postedAt + window < w.clock

/-- How far a governor has come in a step: the world, the issues as they have been shown to it, and
what it has decided about them. -/
structure Stage (ω : Type) where
  world : World ω
  seen : List Issue
  decided : List (Issue × Decision) := []

/-- One move of a governor that lists the issues of some projects. -/
inductive Move (g : Governor ω) (b : StoreBacked ω) (projects : List Value) :
    Stage ω → Stage ω → Prop
  /-- Nothing happens that a decision or a dispatch depends on. -/
  | quiet {s : Stage ω} {w : World ω} (same : s.world.SameFacts w) :
      Move g b projects s { s with world := w }
  /-- The issues of one of the projects are listed. -/
  | list {s : Stage ω} {w : World ω} {project : Value} {issues : List Issue}
      (mem : project ∈ projects)
      (listed : g.collaborators.listIssues project s.world = (.ok (some issues), w))
      (same : s.world.SameFacts w) :
      Move g b projects s { s with world := w, seen := s.seen ++ issues }
  /-- The facts about an issue are gathered, and it is decided what to do with the issue as it has
  been shown. -/
  | decide {s : Stage ω} {w : World ω} {issue : Issue} {ctx : Context}
      {priority : Option OverridePriority} {d : Decision} (mem : issue ∈ s.seen)
      (gathered : g.gather issue s.world = (.ok (ctx, priority), w))
      (decided : issue.decide g.settings ctx = .ok d) (same : s.world.SameFacts w) :
      Move g b projects s { s with world := w, decided := s.decided ++ [(issue, d)] }
  /-- A session is created, as has been decided, for an issue that is idle and cleared. -/
  | create {s : Stage ω} {store : Store} {issue : Issue} {action : Action} {workType : WorkType}
      {reason : DispatchReason} (mem : (issue, .dispatch action workType reason) ∈ s.decided)
      (clears : g.Clears b issue action s.world) (idle : s.world.store.isBusy issue.id = false)
      (creates : b.Creates issue workType.name s.world store) :
      Move g b projects s { s with world := { s.world with store } }

/-- Moves one after the other. -/
def Path (g : Governor ω) (b : StoreBacked ω) (projects : List Value) : Stage ω → Stage ω → Prop :=
  Relation.ReflTransGen (g.Move b projects)

/-- Moves lead from one world to another, whatever has been learnt before, as long as some issues
have been shown. -/
def Moves (g : Governor ω) (b : StoreBacked ω) (projects : List Value) (shown : List Issue)
    (w w' : World ω) : Prop :=
  ∀ seen decided, shown ⊆ seen →
    ∃ seen' decided', g.Path b projects ⟨w, seen, decided⟩ ⟨w', seen', decided'⟩

/-- One step of a governor that lists the issues of some projects and begins with some issues being
shown to it: preparations that leave work alone, and then moves. -/
def Episode (g : Governor ω) (b : StoreBacked ω) (projects : List Value) (shown : List Issue)
    (w w' : World ω) : Prop :=
  ∃ v seen decided, w.SameWork v ∧ g.Path b projects ⟨v, shown, []⟩ ⟨w', seen, decided⟩

variable {g : Governor ω} {b : StoreBacked ω} {issue : Issue} {action : Action}
  {projects : List Value} {shown : List Issue} {s s' : Stage ω} {w w' : World ω}

/-! ### Moves -/

/-- A governor forgets nothing during a step. -/
lemma Move.seen_subset (h : g.Move b projects s s') : s.seen ⊆ s'.seen := by
  cases h with
  | list => exact List.subset_append_left _ _
  | quiet | decide | create => exact List.Subset.refl _

lemma Path.seen_subset (h : g.Path b projects s s') : s.seen ⊆ s'.seen := by
  induction h with
  | refl => exact List.Subset.refl _
  | tail _ move ih => exact List.Subset.trans ih move.seen_subset

/-- What a governor has decided, it does not take back. -/
lemma Move.decided_subset (h : g.Move b projects s s') : s.decided ⊆ s'.decided := by
  cases h with
  | decide => exact List.subset_append_left _ _
  | quiet | list | create => exact List.Subset.refl _

lemma Path.decided_subset (h : g.Path b projects s s') : s.decided ⊆ s'.decided := by
  induction h with
  | refl => exact List.Subset.refl _
  | tail _ move ih => exact List.Subset.trans ih move.decided_subset

/-- An issue stays cleared while nothing changes that its clearance depends on. -/
lemma Clears.of_eq (h : g.Clears b issue action w) (hclock : w'.clock = w.clock)
    (hworkflow : w'.store.workflow = w.store.workflow)
    (htouchpoints : w'.store.touchpoints = w.store.touchpoints)
    (hinForce : b.shelf.inForce w' issue.id = b.shelf.inForce w issue.id) :
    g.Clears b issue action w' where
  notHeld := by
    rw [hinForce]
    exact h.notHeld
  notFailedLately := by
    rw [hworkflow, hclock]
    exact h.notFailedLately
  notTerminal := h.notTerminal
  notStarted := h.notStarted
  answered := by
    rw [htouchpoints, hclock]
    exact h.answered

lemma Clears.of_sameFacts (h : g.Clears b issue action w) (same : w.SameFacts w') :
    g.Clears b issue action w' :=
  h.of_eq same.clock same.workflow same.touchpoints (same.inForce _ _)

/-- An issue that has been cleared stays cleared, whatever move is made. -/
lemma Clears.of_move (h : g.Clears b issue action s.world) (move : g.Move b projects s s') :
    g.Clears b issue action s'.world := by
  cases move with
  | quiet same | list _ _ same | decide _ _ _ same => exact h.of_sameFacts same
  | create _ _ _ creates =>
    cases creates with
    | queued => exact h.of_eq rfl rfl rfl (by cases hshelf : b.shelf <;> rfl)
    | unqueued => exact h.of_eq rfl rfl rfl (by cases hshelf : b.shelf <;> rfl)

lemma Clears.of_path (h : g.Clears b issue action s.world) (hpath : g.Path b projects s s') :
    g.Clears b issue action s'.world := by
  induction hpath with
  | refl => exact h
  | tail _ move ih => exact ih.of_move move

/-! ### Moves between worlds -/

instance : IsPreorder (World ω) (g.Moves b projects shown) where
  refl _ seen decided _ := ⟨seen, decided, .refl⟩
  trans _ _ _ h h' seen decided hshown := by
    obtain ⟨seen', decided', hpath⟩ := h seen decided hshown
    obtain ⟨seen'', decided'', hpath'⟩ := h' seen' decided'
      (List.Subset.trans hshown hpath.seen_subset)
    exact ⟨seen'', decided'', hpath.trans hpath'⟩

lemma Moves.quiet (same : w.SameFacts w') : g.Moves b projects shown w w' :=
  fun seen decided _ => ⟨seen, decided, .single (.quiet same)⟩

lemma Moves.of_onlyLapsed (h : World.OnlyLapsed w w') : g.Moves b projects shown w w' :=
  .quiet (.of_onlyLapsed h)

/-- What each move keeps, moves keep. -/
lemma Moves.imp {R : World ω → World ω → Prop} [IsPreorder (World ω) R]
    (h : g.Moves b projects shown w w')
    (hmove : ∀ {s s' : Stage ω}, g.Move b projects s s' → R s.world s'.world) : R w w' := by
  obtain ⟨seen, decided, hpath⟩ := h shown [] (List.Subset.refl _)
  have hkept {s s' : Stage ω} (hpath : g.Path b projects s s') : R s.world s'.world := by
    induction hpath with
    | refl => exact refl _
    | tail _ move ih => exact trans_of R ih (hmove move)
  exact hkept hpath

lemma Episode.of_moves (h : g.Moves b projects shown w w') : g.Episode b projects shown w w' := by
  obtain ⟨seen, decided, hpath⟩ := h shown [] (List.Subset.refl _)
  exact ⟨w, seen, decided, refl w, hpath⟩

lemma Episode.of_sameWork (h : w.SameWork w') : g.Episode b projects shown w w' :=
  ⟨w', _, _, h, .refl⟩

/-- Preparations followed by a step are a step. -/
lemma Episode.after {v : World ω} (h : w.SameWork v) (hstep : g.Episode b projects shown v w') :
    g.Episode b projects shown w w' := by
  obtain ⟨u, seen, decided, hprepared, hpath⟩ := hstep
  exact ⟨u, seen, decided, trans_of World.SameWork h hprepared, hpath⟩

/-- A step followed by moves is a step. -/
lemma Episode.before {v : World ω} (hstep : g.Episode b projects shown w v)
    (h : g.Moves b projects shown v w') : g.Episode b projects shown w w' := by
  obtain ⟨u, seen, decided, hprepared, hpath⟩ := hstep
  obtain ⟨seen', decided', hpath'⟩ := h seen decided hpath.seen_subset
  exact ⟨u, seen', decided', hprepared, hpath.trans hpath'⟩

end Governor

end IssueDispatch
