import IssueDispatch.Proofs.Overrides

/-!
# What a dispatch does

A dispatch asks the tracker and the overrides for what it needs and then writes to the store.  Its
first half leaves nothing behind but lapsed overrides; its second half, `StoreBacked.place`, either
changes nothing, or records a pending session and queues its work, or records a session that has
failed.  `StoreBacked.dispatch_cases` puts the two together.

A tracker is quiet if it keeps what it does to itself.  It is code from outside, so this is what has
to be known about it.
-/

namespace IssueDispatch

variable {ω : Type}

/-- A tracker that touches nothing but the state outside. -/
structure Tracker.IsQuiet (t : Tracker ω) : Prop where
  listIssues : ∀ project, (t.listIssues project).Keeps World.OnlyOutside
  isParentIssue : ∀ check ∈ t.isParentIssue, ∀ issueId, (check issueId).Keeps World.OnlyOutside
  prompt : ∀ issue workType, (t.prompt issue workType).Keeps World.OnlyOutside
  newSessionId : t.newSessionId.Keeps World.OnlyOutside

/-- The rank of a priority fits into a column of the store. -/
lemma OverridePriority.isStorable_rank (p : Option OverridePriority) :
    Store.IsStorable (rank p) := by
  have hle := rank_le p
  have hlarge : (4 : Int) ≤ twoPow 63 := by decide
  unfold Store.IsStorable
  omega

namespace StoreBacked

/-- Records a pending session of an issue and then queues its work. -/
def place (issue : Issue) (workType sessionId : String) (priority : Nat) (prompt : Option String)
    (now : Binary64) : Run (World ω) Unit := do
  let session := newSession issue sessionId workType priority now
  let registering := "Failed to register session for " ++ issue.identifier
  match ← Run.attempt (World.onStore (Store.createIfIdle session now)) with
  | .error fault => throw (asDispatchFault issue registering fault)
  | .ok none => throw (.issueBusy issue.id issue.identifier)
  | .ok (some _) =>
    let work := newWork issue sessionId workType priority prompt now
    let queueing := "Failed to queue " ++ workType ++ " work for " ++ issue.identifier
    let fail (error : String) : Run (World ω) Unit := do
      let _ ← World.onStore (Store.updateStatus sessionId .failed none (some error) now)
    match ← Run.attempt (World.onStore (Store.enqueue work)) with
    | .ok true => return ()
    | .ok false =>
      fail "enqueue failed"
      throw (.dispatchFailed issue.id queueing)
    | .error fault =>
      if fault.isStoreFault then fail fault.message
      throw (asDispatchFault issue queueing fault)

/-- A dispatch first asks for what it needs. -/
lemma dispatch_eq (b : StoreBacked ω) (issue : Issue) (workType : String) :
    b.dispatch issue workType = (do
      let sessionId ← b.tracker.newSessionId
      let priority ← b.workPriority issue.id
      let now ← World.now
      let prompt ← b.tracker.prompt issue workType
      place issue workType sessionId priority prompt now) := rfl

variable (issue : Issue) (workType sessionId : String) (priority : Nat) (prompt : Option String)
  (now : Binary64)

/-- The record of a session that a dispatch has just made. -/
def placedSession : Session :=
  (newSession issue sessionId workType priority now).toSession .pending now

/-- The record of a session whose work could not be queued. -/
def failedSession (error : String) : Session :=
  { placedSession issue workType sessionId priority now with
    status := .failed
    error := some error }

/-- A session whose work cannot be queued is the last one on record, and is marked as failed. -/
lemma updateStatus_placedSession {s : Store} (h : s.Has [.sessions])
    (hnew : s.findSession sessionId = none) (error : String) :
    (Store.updateStatus sessionId .failed none (some error) now
      (s.withSession (placedSession issue workType sessionId priority now))) =
      (.ok true, s.withSession (failedSession issue workType sessionId priority now error)) := by
  have hs : (s.withSession (placedSession issue workType sessionId priority now)).Has
    [.sessions] := h
  have hothers : ∀ x ∈ s.sessions, (x.sessionId == sessionId) = false := by
    simpa [Store.findSession, List.find?_eq_none] using hnew
  rw [Store.updateStatus_of_has hs sessionId rfl]
  refine Prod.ext ?_ ?_
  · have hfound : ((s.withSession (placedSession issue workType sessionId priority now)).findSession
        sessionId).isSome = true := by
      simp [Store.findSession, placedSession, newSession, Store.NewSession.toSession]
    rw [hfound]
  · have hkept : (s.sessions.map fun x => if x.sessionId == sessionId then
        { x with
          status := SessionStatus.failed
          workerId := none <|> x.workerId
          error := some error <|> x.error
          updatedAt := now } else x) = s.sessions := by
      refine (List.map_congr_left fun x hx => ?_).trans (List.map_id _)
      rw [hothers x hx]
      rfl
    simp only [Store.updateSession, Store.withSession, List.map_append, hkept]
    simp [failedSession, placedSession, newSession, Store.NewSession.toSession]

/-- The second half of a dispatch changes nothing, or records a pending session and queues its work,
or leaves a failed session behind.  A session is recorded only for an issue that is idle. -/
lemma place_cases (hp : Store.IsStorable priority) (w : World ω) :
    (∃ e, place issue workType sessionId priority prompt now w = (.error e, w)) ∨
      (w.store.Has [.sessions, .workQueue] ∧ w.store.isBusy issue.id = false ∧
        w.store.findSession sessionId = none ∧ now.isNaN = false ∧
        w.store.hasQueued sessionId = false ∧
        place issue workType sessionId priority prompt now w = (.ok (), { w with
          store :=
            (w.store.withSession (placedSession issue workType sessionId priority now)).withWork
              (newWork issue sessionId workType priority prompt now) })) ∨
      (w.store.isBusy issue.id = false ∧ w.store.findSession sessionId = none ∧
        ∃ e error, place issue workType sessionId priority prompt now w = (.error e, { w with
          store := w.store.withSession
            (failedSession issue workType sessionId priority now error) })) := by
  rcases Store.createIfIdle_cases (newSession issue sessionId workType priority now) now
    w.store with ⟨hs, hidle, hnew, hcreate⟩ | ⟨-, hcreate⟩ | ⟨e, hcreate⟩
  · let work := newWork issue sessionId workType priority prompt now
    let queueing := "Failed to queue " ++ workType ++ " work for " ++ issue.identifier
    let placed := w.store.withSession (placedSession issue workType sessionId priority now)
    have hgate : Run.attempt (World.onStore (Store.createIfIdle
        (newSession issue sessionId workType priority now) now)) w =
        (.ok (.ok (some (placedSession issue workType sessionId priority now))),
          { w with store := placed }) := by
      rw [Run.attempt_apply, World.onStore_apply, hcreate]
      rfl
    have hfail (error : String) : (do
        let _ ← World.onStore (Store.updateStatus sessionId .failed none (some error) now)
        : Run (World ω) Unit) { w with store := placed } = (.ok (), { w with
          store := w.store.withSession
            (failedSession issue workType sessionId priority now error) }) := by
      rw [Run.bind_of_ok (?_ : _ = (Except.ok true, _))]
      · rfl
      · rw [World.onStore_apply, updateStatus_placedSession issue workType sessionId priority now hs
          hnew error]
    rw [place, Run.bind_of_ok hgate]
    dsimp only
    rcases Store.enqueue_cases work placed with ⟨hq, hnow, hfree, hqueue⟩ | hqueue | ⟨e, he, hqueue⟩
    · have hthere : w.store.Has [.sessions, .workQueue] :=
        List.forall_mem_cons.2 ⟨hs _ (by simp), hq⟩
      refine Or.inr (Or.inl ⟨hthere, hidle, hnew, hnow, hfree, ?_⟩)
      rw [Run.bind_of_ok (?_ : _ = (Except.ok (Except.ok true), _))]
      · rfl
      · rw [Run.attempt_apply, World.onStore_apply, hqueue]
    · refine Or.inr (Or.inr ⟨hidle, hnew, .dispatchFailed issue.id queueing, "enqueue failed", ?_⟩)
      rw [Run.bind_of_ok (?_ : _ = (Except.ok (Except.ok false), { w with store := placed }))]
      · dsimp only
        rw [Run.bind_of_ok (hfail _)]
        rfl
      · rw [Run.attempt_apply, World.onStore_apply, hqueue]
    · refine Or.inr (Or.inr ⟨hidle, hnew, asDispatchFault issue queueing e, e.message, ?_⟩)
      rw [Run.bind_of_ok (?_ : _ = (Except.ok (Except.error e), { w with store := placed }))]
      · dsimp only
        rw [if_pos (he hp), Run.bind_of_ok (hfail _)]
        rfl
      · rw [Run.attempt_apply, World.onStore_apply, hqueue]
  · refine Or.inl ⟨.issueBusy issue.id issue.identifier, ?_⟩
    rw [place, Run.bind_of_ok (?_ : _ = (Except.ok (Except.ok none), w))]
    · rfl
    · rw [Run.attempt_apply, World.onStore_apply, hcreate]
  · refine Or.inl ⟨asDispatchFault issue
      ("Failed to register session for " ++ issue.identifier) e, ?_⟩
    rw [place, Run.bind_of_ok (?_ : _ = (Except.ok (Except.error e), w))]
    · rfl
    · rw [Run.attempt_apply, World.onStore_apply, hcreate]

variable {issue workType sessionId priority prompt now}

/-- A session is placed for an idle issue if its identifier is new and the clock shows a number. -/
lemma place_of_idle {w : World ω} (hthere : w.store.Has [.sessions, .workQueue])
    (hclock : now.isNaN = false) (hp : Store.IsStorable priority)
    (hidle : w.store.isBusy issue.id = false) (hsession : w.store.findSession sessionId = none)
    (hqueue : w.store.hasQueued sessionId = false) :
    place issue workType sessionId priority prompt now w = (.ok (), { w with
      store := (w.store.withSession (placedSession issue workType sessionId priority now)).withWork
        (newWork issue sessionId workType priority prompt now) }) := by
  let placed := w.store.withSession (placedSession issue workType sessionId priority now)
  let work := newWork issue sessionId workType priority prompt now
  have hcreate : Store.createIfIdle (newSession issue sessionId workType priority now) now
      w.store = (.ok (some (placedSession issue workType sessionId priority now)), placed) :=
    Store.createIfIdle_of_idle (hthere.mono (by simp)) hidle hsession
      (Store.requirePriority_of_isStorable hp)
  have henqueue : Store.enqueue work placed = (.ok true, placed.withWork work) := by
    have hthere' : placed.Has [.workQueue] := fun t ht => hthere t (List.mem_cons_of_mem _ ht)
    have hfree : (work.queuedAt.isNaN || placed.hasQueued work.sessionId) = false := by
      rw [show work.queuedAt = now from rfl, hclock]
      exact hqueue
    rw [Store.enqueue_of_has hthere' hp, hfree]
    rfl
  rw [place, Run.bind_of_ok (Run.attempt_apply _ w), World.onStore_apply, hcreate]
  dsimp only
  rw [Run.bind_of_ok (Run.attempt_apply _ _), World.onStore_apply, henqueue]
  rfl

/-- No session is placed for a busy issue. -/
lemma place_of_busy {w : World ω} (hsessions : w.store.Has [.sessions])
    (hbusy : w.store.isBusy issue.id = true) :
    place issue workType sessionId priority prompt now w =
      (.error (.issueBusy issue.id issue.identifier), w) := by
  have hcreate : Store.createIfIdle (newSession issue sessionId workType priority now) now
      w.store = (.ok none, w.store) := Store.createIfIdle_of_busy hsessions hbusy
  rw [place, Run.bind_of_ok (Run.attempt_apply _ w), World.onStore_apply, hcreate]
  rfl

/-- A session with a new identifier is placed exactly if the tables for it are there, its issue is
idle and the clock shows a number. -/
lemma place_eq_ok_iff (hp : Store.IsStorable priority) {w : World ω}
    (hsession : w.store.findSession sessionId = none)
    (hqueue : w.store.hasQueued sessionId = false) :
    (place issue workType sessionId priority prompt now w).1 = .ok () ↔
      w.store.Has [.sessions, .workQueue] ∧ w.store.isBusy issue.id = false ∧
        now.isNaN = false := by
  constructor
  · intro hok
    rcases place_cases issue workType sessionId priority prompt now hp w with
      ⟨e, h⟩ | ⟨hthere, hidle, -, hclock, -⟩ | ⟨-, -, e, error, h⟩
    · rw [h] at hok
      cases hok
    · exact ⟨hthere, hidle, hclock⟩
    · rw [h] at hok
      cases hok
  · rintro ⟨hthere, hidle, hclock⟩
    rw [place_of_idle hthere hclock hp hidle hsession hqueue]

variable (issue workType) (b : StoreBacked ω)

/-- The priority of the work on an issue is the rank of the override in force. -/
lemma workPriority_cases (issueId : String) (w : World ω) :
    ∃ w', World.OnlyLapsed w w' ∧
      (b.workPriority issueId w =
          (.ok (OverridePriority.rank ((b.shelf.inForce w issueId).bind Override.priority?)), w') ∨
        ∃ e, b.workPriority issueId w = (.error e, w')) := by
  obtain ⟨w', hlapsed, h | ⟨e, h⟩⟩ := b.shelf.get_cases issueId w
  · refine ⟨w', hlapsed, Or.inl ?_⟩
    have hpriority : b.shelf.priority issueId w =
        (.ok ((b.shelf.inForce w issueId).bind Override.priority?), w') :=
      Run.bind_of_ok h
    exact Run.bind_of_ok hpriority
  · exact ⟨w', hlapsed, Or.inr ⟨e, Run.bind_of_error (Run.bind_of_error h)⟩⟩

/-- A dispatch fails without a trace in the tables of work, or it places a session at the rank of
the override in force. -/
lemma dispatch_cases (hquiet : b.tracker.IsQuiet) (w : World ω) :
    ∃ w', World.OnlyLapsed w w' ∧
      ((∃ e, b.dispatch issue workType w = (.error e, w')) ∨
        ∃ sessionId prompt, b.dispatch issue workType w =
          place issue workType sessionId
            (OverridePriority.rank ((b.shelf.inForce w issue.id).bind Override.priority?)) prompt
            w.clock w') := by
  rw [dispatch_eq]
  rcases hid : b.tracker.newSessionId w with ⟨e | sessionId, w₁⟩
  · have h₁ := World.OnlyLapsed.of_onlyOutside (hquiet.newSessionId.of_apply_eq hid)
    exact ⟨w₁, h₁, Or.inl ⟨e, Run.bind_of_error hid⟩⟩
  have h₁ := World.OnlyLapsed.of_onlyOutside (hquiet.newSessionId.of_apply_eq hid)
  rw [Run.bind_of_ok hid]
  obtain ⟨w₂, h₂, hrank | ⟨e, hrank⟩⟩ := b.workPriority_cases issue.id w₁
  · have h₁₂ := h₁.trans h₂
    rw [Run.bind_of_ok hrank, Run.bind_of_ok (World.now_apply w₂), h₁₂.clock, h₁.inForce]
    rcases hprompt : b.tracker.prompt issue workType w₂ with ⟨e | prompt, w₃⟩
    · have h₃ := World.OnlyLapsed.of_onlyOutside ((hquiet.prompt _ _).of_apply_eq hprompt)
      exact ⟨w₃, h₁₂.trans h₃, Or.inl ⟨e, Run.bind_of_error hprompt⟩⟩
    · have h₃ := World.OnlyLapsed.of_onlyOutside ((hquiet.prompt _ _).of_apply_eq hprompt)
      refine ⟨w₃, h₁₂.trans h₃, Or.inr ⟨sessionId, prompt, ?_⟩⟩
      rw [Run.bind_of_ok hprompt]
  · exact ⟨w₂, h₁.trans h₂, Or.inl ⟨e, Run.bind_of_error hrank⟩⟩

end StoreBacked

end IssueDispatch
