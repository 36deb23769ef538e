import IssueDispatch.Proofs.Dispatch
import IssueDispatch.Store.Workers

/-!
# Operations on the queue

A run is a list of operations, by any number of governors, workers and administrators, in any order;
`Operation.run` performs one, and `World.runAll` all of them.  What happens elsewhere between two
operations (the clock goes on, workers register, humans comment) is an operation too, which leaves
the queue, the markers and the records of sessions alone.

`Operation.hasEffect` says once what an operation can do to those three tables.  Every fact about
runs is proved from it, one effect at a time, and then by induction on the list.
-/

namespace IssueDispatch

/-- Nothing has happened to work, and the clock has not been broken. -/
structure World.LeavesWork {ω : Type} (w w' : World ω) : Prop where
  store : w.store.SameWork w'.store
  clock : w.clock.isNaN = false → w'.clock.isNaN = false

@[refl] protected lemma World.LeavesWork.refl {ω : Type} (w : World ω) : World.LeavesWork w w :=
  ⟨.refl w.store, id⟩

/-- What an operation reports: the work it has put into the queue and the work it hands to a
worker. -/
structure Report where
  inserted : List Work := []
  handedOut : List Work := []

/-- An operation on the queue, or whatever happens elsewhere. -/
inductive Operation (ω : Type) where
  | dispatch (b : StoreBacked ω) (quiet : b.tracker.IsQuiet) (issue : Issue) (workType : String)
  | enqueue (work : Work)
  | claim (worker : String) (projects : Option (List String))
  | claimSession (sessionId worker : String)
  | poll (worker : String)
  | requeue (work : Work) (boost : Int)
  | remove (sessionId : String)
  | removeMatching (part : String)
  | clearQueue
  | reset
  | releaseClaim (sessionId : String)
  | clearClaims
  | updateStatus (sessionId : String) (status : SessionStatus) (worker error : Option String)
  | elsewhere (f : World ω → World ω) (leaves : ∀ w, World.LeavesWork w (f w))

namespace Operation

variable {ω : Type}

/-- Performs an operation. -/
def run : Operation ω → Run (World ω) Report
  | dispatch b _ issue workType => do
    b.dispatch issue workType
    return { inserted := (← get).store.queue.getLast?.toList }
  | enqueue work => do
    let queued ← World.onStore (Store.enqueue work)
    return { inserted := if queued then [work] else [] }
  | claim worker projects => do
    return { handedOut := (← World.onStoreNow (Store.claim worker projects)).toList }
  | claimSession sessionId worker => do
    return { handedOut := (← World.onStoreNow (Store.claimSession sessionId worker)).toList }
  | poll worker => do
    return { handedOut := ← World.onStoreNow (Store.poll worker) }
  | requeue work boost => do
    let now ← World.now
    let queued ← World.onStore (Store.requeue work boost now)
    return { inserted := if queued then [work.boosted boost now] else [] }
  | remove sessionId => do
    let _ ← World.onStore (Store.removeQueued sessionId)
    return {}
  | removeMatching part => do
    let _ ← World.onStore (Store.removeMatching part)
    return {}
  | clearQueue => do
    let _ ← World.onStore Store.clearQueue
    return {}
  | reset => do
    let _ ← World.onStoreNow Store.reset
    return { inserted := (← get).store.queue }
  | releaseClaim sessionId => do
    let _ ← World.onStore (Store.releaseClaim sessionId)
    return {}
  | clearClaims => do
    let _ ← World.onStore Store.clearClaims
    return {}
  | updateStatus sessionId status worker error => do
    let _ ← World.onStoreNow (Store.updateStatus sessionId status worker error)
    return {}
  | elsewhere f _ => do
    modify f
    return {}

/-- The world after an operation. -/
def after (op : Operation ω) (w : World ω) : World ω := (op.run w).2

/-- What an operation reports; one that fails reports nothing. -/
def report (op : Operation ω) (w : World ω) : Report := (op.run w).1.toOption.getD {}

end Operation

/-! ## What the tables of work undergo -/

/-- A worker is handed some work, one piece after the other. -/
inductive Store.HandsOut (worker : String) (now : Binary64) : Store → List Work → Store → Prop
  | nil (s : Store) : HandsOut worker now s [] s
  | cons {s s' : Store} {w : Work} {ws : List Work} (mem : w ∈ s.queue)
      (rest : HandsOut worker now (s.handOut w.sessionId worker now) ws s') :
      HandsOut worker now s (w :: ws) s'

namespace Store

/-- The claim of a piece of work is given up and its session waits again. -/
def giveUp (s : Store) (sessionId : String) (now : Binary64) : Store :=
  (s.unmark sessionId).updateSession sessionId (·.backToPending now)

/-- Whatever belongs to the sessions that match a part is removed. -/
def withoutMatching (s : Store) (part : String) : Store :=
  { s with
    queue := s.queue.filter fun w => !matchesPart part w.sessionId
    claims := s.claims.filter fun c => !matchesPart part c.sessionId
    sessions := s.sessions.filter fun x => !matchesPart part x.sessionId }

/-- The queue is rebuilt from the unfinished sessions. -/
def rebuilt (s : Store) (now : Binary64) : Store :=
  { s with
    claims := []
    queue := s.unfinished.map Session.toWork
    sessions := s.sessions.map fun x =>
      if x.status.isUnfinished then { x.backToPending now with providerSessionId := none } else x }

end Store

/-- What an operation does to the tables of work and what it reports, if none of them is missing. -/
inductive Operation.Effect {ω : Type} (now : Binary64) (s : Store) :
    Operation ω → Report → Store → Prop
  | refused (op : Operation ω) : Effect now s op {} s
  | queued {work : Work} (time : work.queuedAt.isNaN = false)
      (free : s.hasQueued work.sessionId = false) :
      Effect now s (.enqueue work) { inserted := [work] } (s.withWork work)
  | placed {b : StoreBacked ω} {quiet : b.tracker.IsQuiet} {issue : Issue} {workType : String}
      (sessionId : String) (priority : Nat) (prompt : Option String)
      (idle : s.isBusy issue.id = false) (new : s.findSession sessionId = none)
      (free : s.hasQueued sessionId = false) :
      Effect now s (.dispatch b quiet issue workType)
        { inserted := [StoreBacked.newWork issue sessionId workType priority prompt now] }
        ((s.withSession (StoreBacked.placedSession issue workType sessionId priority now)).withWork
          (StoreBacked.newWork issue sessionId workType priority prompt now))
  | failed {b : StoreBacked ω} {quiet : b.tracker.IsQuiet} {issue : Issue} {workType : String}
      (sessionId : String) (priority : Nat) (error : String)
      (new : s.findSession sessionId = none) :
      Effect now s (.dispatch b quiet issue workType) {}
        (s.withSession (StoreBacked.failedSession issue workType sessionId priority now error))
  | handedOut {op : Operation ω} {worker : String} {ws : List Work} {s' : Store}
      (works : s.HandsOut worker now ws s') : Effect now s op { handedOut := ws } s'
  | lost {worker : String} {ws : List Work} {s' : Store}
      (works : s.HandsOut worker now ws s') : Effect now s (.poll worker) {} s'
  | putBack {work : Work} {boost : Int} (time : now.isNaN = false)
      (free : s.hasQueued work.sessionId = false) :
      Effect now s (.requeue work boost) { inserted := [work.boosted boost now] }
        ((s.giveUp work.sessionId now).withWork (work.boosted boost now))
  | givenUp {work : Work} {boost : Int}
      (cause : now.isNaN = true ∨ s.hasQueued work.sessionId = true ∨
        ¬ Store.IsStorable (work.boosted boost now).priority) :
      Effect now s (.requeue work boost) {} (s.giveUp work.sessionId now)
  | removed (sessionId : String) : Effect now s (.remove sessionId) {} (s.unqueue sessionId)
  | removedMatching (part : String) :
      Effect now s (.removeMatching part) {} (s.withoutMatching part)
  | emptied : Effect now s .clearQueue {} { s with queue := [] }
  | rebuilt :
      Effect now s .reset { inserted := s.unfinished.map Session.toWork } (s.rebuilt now)
  | unmarked (sessionId : String) :
      Effect now s (.releaseClaim sessionId) {} (s.unmark sessionId)
  | unmarkedAll : Effect now s .clearClaims {} { s with claims := [] }
  | moved {sessionId : String} {status : SessionStatus} {worker error : Option String} :
      Effect now s (.updateStatus sessionId status worker error) {}
        (s.updateSession sessionId fun x =>
          { x with
            status
            workerId := worker <|> x.workerId
            error := error <|> x.error
            updatedAt := now })

/-! ### Claims and polls -/

namespace Store

variable {s : Store} {worker : String} {now : Binary64}

lemma mem_queue_of_mem_head?_eligible {projects : Option (List String)} {w : Work}
    (h : w ∈ (s.eligible projects).head?) : w ∈ s.queue := by
  have hmem : w ∈ s.eligible projects := List.mem_of_mem_head? h
  rw [eligible, List.mem_mergeSort] at hmem
  exact (List.mem_filter.1 hmem).1

/-- A single piece of work, or none, is handed out. -/
lemma handsOut_toList {w? : Option Work} (h : ∀ w ∈ w?, w ∈ s.queue) :
    s.HandsOut worker now w?.toList (w?.elim s fun w => s.handOut w.sessionId worker now) := by
  rcases w? with - | w
  · exact .nil s
  · exact .cons (h w rfl) (.nil _)

/-- Claims that are repeated hand out one piece of work after the other. -/
lemma claimMany_handsOut (h : s.Has workTables) (worker : String)
    (projects : Option (List String)) (now : Binary64) (n : Nat) :
    ∃ ws s', claimMany worker projects now n s = (.ok ws, s') ∧ s.HandsOut worker now ws s' := by
  induction n generalizing s with
  | zero => exact ⟨[], s, rfl, .nil s⟩
  | succ n ih =>
    have hclaim := claim_of_has h worker projects now
    rw [claimMany]
    rcases hw : (s.eligible projects).head? with - | w
    · rw [hw] at hclaim
      exact ⟨[], s, Run.bind_of_ok hclaim, .nil s⟩
    · rw [hw] at hclaim
      obtain ⟨ws, s', hrest, hgiven⟩ := ih (s := s.handOut w.sessionId worker now) h
      refine ⟨w :: ws, s', ?_, .cons (mem_queue_of_mem_head?_eligible hw) hgiven⟩
      rw [Run.bind_of_ok hclaim]
      exact Run.bind_of_ok hrest

/-- A heartbeat leaves the tables of work as they are. -/
lemma heartbeat_sameWork (id : String) (activeCount : Int) (status : Option String)
    (now : Binary64) (s : Store) : s.SameWork (heartbeat id activeCount status now s).2 := by
  by_cases ht : Table.workers ∈ s.missing
  · rw [heartbeat, Run.atomically_error (Transaction.bind_of_error (requireTable_of_mem ht))]
  · by_cases hcount : IsStorable activeCount
    · rw [heartbeat, Run.atomically, Transaction.bind_of_ok (requireTable_of_notMem ht),
        Transaction.bind_of_ok (requireInteger_of_isStorable hcount)]
      exact ⟨rfl, rfl, rfl, rfl⟩
    · rw [heartbeat, Run.atomically_error
        (?_ : _ = Except.error (Fault.outOfRange "integer too large for the store"))]
      rw [Transaction.bind_of_ok (requireTable_of_notMem ht),
        Transaction.bind_of_error (requireInteger_of_not_isStorable hcount)]

/-- A poll hands out the work that it gives, and does nothing else to the tables of work.  If the
heartbeat that ends it fails, the work is handed out all the same but nobody is told. -/
lemma poll_handsOut (h : s.Has workTables) (id : String) (now : Binary64) :
    ∃ ws s₁ r s', poll id now s = (r, s') ∧ s.HandsOut id now ws s₁ ∧ s₁.SameWork s' ∧
      (r = .ok ws ∨ ∃ e, r = .error e) := by
  rw [poll, getWorker]
  rcases reading_cases [.workers] (fun s => s.workers.find? fun w => w.id == id) s with
    ⟨-, hread⟩ | ⟨e, -, hread⟩
  · rw [Run.bind_of_ok hread]
    rcases hworker : s.workers.find? fun w => w.id == id with - | worker
    · rw [hworker]
      exact ⟨[], s, _, s, rfl, .nil s, .refl s, Or.inl rfl⟩
    · rw [hworker]
      dsimp only
      by_cases hactive : (worker.status != Worker.activeStatus) = true
      · rw [if_pos hactive]
        exact ⟨[], s, _, s, rfl, .nil s, .refl s, Or.inl rfl⟩
      · rw [if_neg hactive]
        obtain ⟨ws, s₁, hclaims, hgiven⟩ := claimMany_handsOut h id worker.projects now
          (min worker.availableSlots maxClaimsPerPoll).toNat
        rw [Run.bind_of_ok hclaims]
        by_cases hsome : (!ws.isEmpty) = true
        · have hbeat := heartbeat_sameWork id (worker.activeCount + ws.length) none now s₁
          rw [if_pos hsome]
          rcases hr : heartbeat id (worker.activeCount + ws.length) none now s₁ with ⟨e | _, s'⟩
          · rw [hr] at hbeat
            exact ⟨ws, s₁, _, s', Run.bind_of_error hr, hgiven, hbeat, Or.inr ⟨e, rfl⟩⟩
          · rw [hr] at hbeat
            exact ⟨ws, s₁, _, s', Run.bind_of_ok hr, hgiven, hbeat, Or.inl rfl⟩
        · rw [if_neg hsome]
          exact ⟨ws, s₁, _, s₁, rfl, hgiven, .refl s₁, Or.inl rfl⟩
  · exact ⟨[], s, _, s, Run.bind_of_error hread, .nil s, .refl s, Or.inr ⟨e, rfl⟩⟩

end Store

/-! ### Every operation -/

namespace Operation

variable {ω : Type} {op : Operation ω} {w : World ω}

/-- What an operation has done to the tables of work, and reported, is one of its effects. -/
def HasEffect (op : Operation ω) (w : World ω) : Prop :=
  ∃ s, Effect w.clock w.store op (op.report w) s ∧
    World.LeavesWork { w with store := s } (op.after w)

lemma HasEffect.of_run {res : Except Fault Report} {w' : World ω} {s : Store}
    (hrun : op.run w = (res, w')) (heffect : Effect w.clock w.store op (res.toOption.getD {}) s)
    (hleaves : World.LeavesWork { w with store := s } w') : op.HasEffect w := by
  refine ⟨s, ?_, ?_⟩
  · rwa [report, hrun]
  · rwa [after, hrun]

/-- A dispatch of a quiet tracker places a session or leaves one that has failed, or nothing. -/
lemma dispatch_effect (b : StoreBacked ω) (quiet : b.tracker.IsQuiet) (issue : Issue)
    (workType : String) (w : World ω) : (dispatch b quiet issue workType).HasEffect w := by
  obtain ⟨w', hlapsed, hcases⟩ := b.dispatch_cases issue workType quiet w
  have hclock : w.clock.isNaN = false → w'.clock.isNaN = false := hlapsed.clock ▸ id
  rcases hcases with ⟨e, h⟩ | ⟨sessionId, prompt, h⟩
  · exact .of_run (Run.bind_of_error h) (.refused _)
      ⟨hlapsed.sameWork, hclock⟩
  · have hrank := OverridePriority.isStorable_rank
      ((b.shelf.inForce w issue.id).bind Override.priority?)
    generalize OverridePriority.rank _ = priority at h hrank
    let work := StoreBacked.newWork issue sessionId workType priority prompt w.clock
    let session := StoreBacked.placedSession issue workType sessionId priority w.clock
    rcases StoreBacked.place_cases issue workType sessionId priority prompt w.clock hrank w' with
      ⟨e, hp⟩ | ⟨-, hidle, hnew, -, hfree, hp⟩ | ⟨-, hnew, e, error, hp⟩ <;> rw [← h] at hp
    · exact .of_run (Run.bind_of_error hp) (.refused _)
        ⟨hlapsed.sameWork, hclock⟩
    · rw [Store.isBusy, hlapsed.sessions] at hidle
      rw [Store.findSession, hlapsed.sessions] at hnew
      rw [Store.hasQueued, hlapsed.queue] at hfree
      have hrun : (dispatch b quiet issue workType).run w =
          (.ok { inserted := [work] },
            { w' with store := (w'.store.withSession session).withWork work }) := by
        rw [run, Run.bind_of_ok hp, Run.bind_of_ok (Run.get_apply _), Store.withWork_queue,
          List.getLast?_concat]
        rfl
      refine .of_run hrun (.placed sessionId priority prompt hidle hnew hfree)
        ⟨⟨hlapsed.missing, ?_, hlapsed.claims, ?_⟩, hclock⟩
      · simp [Store.withSession, Store.withWork, hlapsed.queue, work]
      · simp [Store.withSession, Store.withWork, hlapsed.sessions, session]
    · rw [Store.findSession, hlapsed.sessions] at hnew
      refine .of_run (Run.bind_of_error hp)
        (.failed sessionId priority error hnew)
        ⟨⟨hlapsed.missing, hlapsed.queue, hlapsed.claims, ?_⟩, hclock⟩
      simp [hlapsed.sessions]

/-- A requeue gives the claim up, and then the work is back in the queue or there is a cause why it
is not. -/
lemma requeue_effect (work : Work) (boost : Int) (w : World ω)
    (h : w.store.Has Store.workTables) : (requeue work boost).HasEffect w := by
  let boosted := work.boosted boost w.clock
  let given := w.store.giveUp work.sessionId w.clock
  have hgiven : given.Has [.workQueue] := h.mono (by simp [Store.workTables])
  have hstep : Store.requeue work boost w.clock w.store = Store.enqueue boosted given :=
    Store.requeue_of_has (h.mono (by simp [Store.workTables])) work boost w.clock
  have hcause {r : Except Fault Bool} (hr : r ≠ .ok true)
      (hrefused : Store.enqueue boosted given = (r, given)) :
      w.clock.isNaN = true ∨ w.store.hasQueued work.sessionId = true ∨
        ¬ Store.IsStorable boosted.priority := by
    refine Decidable.byContradiction fun hfine => ?_
    simp only [not_or, Bool.not_eq_true, Decidable.not_not] at hfine
    have hfree : ¬ (boosted.queuedAt.isNaN || given.hasQueued boosted.sessionId) = true := by
      rw [show boosted.queuedAt.isNaN = false from hfine.1,
        show given.hasQueued boosted.sessionId = false from hfine.2.1]
      decide
    rw [Store.enqueue_of_has hgiven hfine.2.2, if_neg hfree] at hrefused
    exact hr (Prod.mk.inj hrefused).1.symm
  rcases Store.enqueue_cases boosted given with ⟨-, htime, hfree, hq⟩ | hq | ⟨e, -, hq⟩
  · have hrun : (requeue work boost).run w = (.ok { inserted := [boosted] }, _) :=
      Run.bind_of_ok (World.onStore_of_eq (hstep.trans hq))
    exact .of_run hrun (.putBack htime hfree) (.refl _)
  · have hrun : (requeue work boost).run w = (.ok {}, _) :=
      Run.bind_of_ok (World.onStore_of_eq (hstep.trans hq))
    exact .of_run hrun (.givenUp (hcause (by simp) hq)) (.refl _)
  · have hrun : (requeue work boost).run w = (.error e, { w with store := given }) := by
      rw [run, Run.bind_of_ok (World.now_apply w)]
      exact Run.bind_of_error (World.onStore_of_eq (hstep.trans hq))
    exact .of_run hrun (.givenUp (hcause (by simp) hq)) (.refl _)

/-- What an operation does to the tables of work, if none of them is missing, is one of its
effects. -/
lemma hasEffect (op : Operation ω) (w : World ω) (h : w.store.Has Store.workTables) :
    op.HasEffect w := by
  have hqueue : w.store.Has [.workQueue] := h.mono (by simp [Store.workTables])
  have hclaims : w.store.Has [.workClaims] := h.mono (by simp [Store.workTables])
  have hsessions : w.store.Has [.sessions] := h.mono (by simp [Store.workTables])
  cases op with
  | dispatch b quiet issue workType => exact dispatch_effect b quiet issue workType w
  | enqueue work =>
    rcases Store.enqueue_cases work w.store with ⟨-, htime, hfree, h⟩ | h | ⟨e, -, h⟩
    · exact .of_run (Run.bind_of_ok (World.onStore_of_eq h)) (.queued htime hfree)
        (.refl _)
    · exact .of_run (Run.bind_of_ok (World.onStore_of_eq h)) (.refused _) (.refl _)
    · exact .of_run (Run.bind_of_error (World.onStore_of_eq h)) (.refused _) (.refl _)
  | claim worker projects =>
    have hclaim := Store.claim_of_has h worker projects w.clock
    exact .of_run (Run.bind_of_ok (World.onStoreNow_of_eq hclaim))
      (.handedOut (Store.handsOut_toList fun _ => Store.mem_queue_of_mem_head?_eligible)) (.refl _)
  | claimSession sessionId worker =>
    have hclaim := Store.claimSession_of_has h sessionId worker w.clock
    exact .of_run (Run.bind_of_ok (World.onStoreNow_of_eq hclaim))
      (.handedOut (Store.handsOut_toList fun _ => List.mem_of_find?_eq_some)) (.refl _)
  | poll worker =>
    obtain ⟨ws, s, r, s', hpoll, hgiven, hsame, rfl | ⟨e, rfl⟩⟩ :=
      Store.poll_handsOut h worker w.clock
    · exact .of_run (Run.bind_of_ok (World.onStoreNow_of_eq hpoll))
        (.handedOut hgiven) ⟨hsame, id⟩
    · exact .of_run (Run.bind_of_error (World.onStoreNow_of_eq hpoll))
        (.lost hgiven) ⟨hsame, id⟩
  | requeue work boost => exact requeue_effect work boost w h
  | remove sessionId =>
    have hremove := Store.changing_of_has hqueue fun s =>
      (s.hasQueued sessionId, s.unqueue sessionId)
    exact .of_run (Run.bind_of_ok (World.onStore_of_eq hremove)) (.removed sessionId)
      (.refl _)
  | removeMatching part =>
    have hremove : ∃ ids, Store.removeMatching part w.store =
        (.ok ids, w.store.withoutMatching part) := ⟨_, Store.changing_of_has h _⟩
    obtain ⟨ids, hremove⟩ := hremove
    exact .of_run (Run.bind_of_ok (World.onStore_of_eq hremove))
      (.removedMatching part) (.refl _)
  | clearQueue =>
    have hclear := Store.changing_of_has hqueue fun s => (s.queue.length, { s with queue := [] })
    exact .of_run (Run.bind_of_ok (World.onStore_of_eq hclear)) .emptied (.refl _)
  | reset =>
    have hreset : ∃ n, Store.reset w.clock w.store = (.ok n, w.store.rebuilt w.clock) :=
      ⟨_, Store.changing_of_has (h.mono (by simp [Store.workTables])) _⟩
    obtain ⟨n, hreset⟩ := hreset
    have hrun : (reset : Operation ω).run w =
        (.ok { inserted := w.store.unfinished.map Session.toWork },
          { w with store := w.store.rebuilt w.clock }) := by
      rw [run, Run.bind_of_ok (World.onStoreNow_of_eq hreset)]
      rfl
    exact .of_run hrun .rebuilt (.refl _)
  | releaseClaim sessionId =>
    have hrelease := Store.changing_of_has hclaims fun s =>
      (s.claims.any fun c => c.sessionId == sessionId, s.unmark sessionId)
    exact .of_run (Run.bind_of_ok (World.onStore_of_eq hrelease))
      (.unmarked sessionId) (.refl _)
  | clearClaims =>
    have hclear := Store.changing_of_has hclaims fun s => (s.claims.length, { s with claims := [] })
    exact .of_run (Run.bind_of_ok (World.onStore_of_eq hclear)) .unmarkedAll (.refl _)
  | updateStatus sessionId status worker error =>
    by_cases hknown : status.isKnown = true
    · have hmove := Store.updateStatus_of_has hsessions sessionId hknown worker error w.clock
      exact .of_run (Run.bind_of_ok (World.onStoreNow_of_eq hmove)) .moved (.refl _)
    · have hrefuse : Store.updateStatus sessionId status worker error w.clock w.store =
          (.error (.invalidSessionStatus status.name), w.store) := by
        rw [Store.updateStatus, if_pos (by simpa using hknown)]
        rfl
      exact .of_run (Run.bind_of_error (World.onStoreNow_of_eq hrefuse)) (.refused _)
        (.refl _)
  | elsewhere f leaves =>
    exact .of_run (Run.bind_of_ok (Run.modify_apply f w)) (.refused _) (leaves w)

end Operation

/-- The world after some operations. -/
def World.runAll {ω : Type} (w : World ω) (ops : List (Operation ω)) : World ω :=
  ops.foldl (fun w op => op.after w) w

end IssueDispatch
