import IssueDispatch.Proofs.Queue.Consistency
import IssueDispatch.Proofs.Queue.Ledger

/-!
# Sessions that are over

A session that is completed, failed or stopped is over, and rebuilding the queue leaves it alone.
But neither a claim nor putting work back looks at the status of the session.  So a session that
was finished while its work was still queued comes back to life when the work is handed out, and one
whose work is put back late does so although its issue may have been dispatched again.

`Operation.TakesUp` says when an operation takes up the work of a session in one of these ways.  The
theorem at the end says that nothing else that is done to the queue ever revives a session, and that
without it no issue gets more active sessions than it had.

Every operation on the queue changes the records of sessions one by one and removes some of them at
most; `Operation.Rewrites` is what the single cases come to.
-/

namespace IssueDispatch

/-- A session that is over is not active. -/
lemma SessionStatus.isActive_eq_false {status : SessionStatus} (h : status.isTerminal = true) :
    status.isActive = false := by
  cases status <;> first | rfl | exact absurd h (by decide)

/-- A status that is known is either active or terminal. -/
lemma SessionStatus.isActive_of_not_isTerminal {status : SessionStatus}
    (hknown : status.isKnown = true) (h : status.isTerminal = false) : status.isActive = true := by
  rw [isKnown_eq, h, Bool.or_false] at hknown
  exact hknown

/-! ## Hand-outs and records -/

/-- Work that is handed out, one piece after the other, turns the records of exactly its sessions
into claimed ones. -/
lemma Store.HandsOut.sessions_eq {worker : String} {now : Binary64} {s s' : Store} {ws : List Work}
    (h : s.HandsOut worker now ws s') :
    s'.sessions = s.sessions.map fun x =>
      if hasSession ws x.sessionId then x.claimBy worker now else x := by
  induction h with
  | nil s => simp [hasSession]
  | @cons s s' w ws mem _ ih =>
    have hsessions : (s.handOut w.sessionId worker now).sessions = s.sessions.map fun x =>
        if x.sessionId == w.sessionId then x.claimBy worker now else x := rfl
    rw [ih, hsessions, List.map_map]
    refine List.map_congr_left fun x _ => ?_
    have hcons : hasSession (w :: ws) x.sessionId =
        (x.sessionId == w.sessionId || hasSession ws x.sessionId) := by
      rw [hasSession, List.any_cons, BEq.comm]
      rfl
    rw [hcons, Function.comp_apply]
    by_cases hid : (x.sessionId == w.sessionId) = true
    · rw [if_pos hid, hid, Bool.true_or, if_pos rfl]
      split
      · rfl
      · rfl
    · rw [if_neg hid, Bool.eq_false_iff.2 hid, Bool.false_or]

/-- Records of sessions have been removed at most. -/
def Store.OnlyLoses (s s' : Store) : Prop := s'.sessions.Sublist s.sessions

instance : IsPreorder Store Store.OnlyLoses where
  refl s := List.Sublist.refl s.sessions
  trans _ _ _ h h' := List.Sublist.trans h' h

lemma Store.enqueue_onlyLoses (work : Work) : (enqueue work).Keeps OnlyLoses := by
  intro s
  rcases enqueue_cases work s with ⟨-, -, -, h⟩ | h | ⟨e, -, h⟩ <;> rw [h] <;>
    exact List.Sublist.refl s.sessions

namespace Operation

variable {ω : Type} {op : Operation ω} {w : World ω}

/-- Whether an operation hands work out to a worker. -/
def IsClaim : Operation ω → Prop
  | claim .. | claimSession .. | poll _ => True
  | _ => False

/-- Whether an operation is one on the queue.  A dispatch is not, and neither is moving a session to
another status by hand. -/
def IsOfQueue : Operation ω → Prop
  | dispatch .. | updateStatus .. | elsewhere .. => False
  | _ => True

/-- Whether an operation takes up the work of a session: a claim does so if it takes the work out of
the queue, and so does everyone who puts the work back. -/
def TakesUp (op : Operation ω) (w : World ω) (sessionId : String) : Prop :=
  match op with
  | claim .. | claimSession .. | poll _ =>
    w.store.hasQueued sessionId = true ∧ (op.after w).store.hasQueued sessionId = false
  | requeue work _ => work.sessionId = sessionId
  | _ => False

instance (w : World ω) (sessionId : String) :
    (op : Operation ω) → Decidable (op.TakesUp w sessionId)
  | claim .. | claimSession .. | poll _ => inferInstanceAs (Decidable (_ ∧ _))
  | requeue .. => inferInstanceAs (Decidable (_ = _))
  | dispatch .. | enqueue _ | remove _ | removeMatching _ | clearQueue | reset | releaseClaim _
  | clearClaims | updateStatus .. | elsewhere .. => isFalse id

lemma takesUp_iff_of_isClaim (hop : op.IsClaim) {sessionId : String} :
    op.TakesUp w sessionId ↔
      w.store.hasQueued sessionId = true ∧ (op.after w).store.hasQueued sessionId = false := by
  cases op <;> first | exact Iff.rfl | exact hop.elim

/-- What a claim does is to hand out some work, or none. -/
lemma exists_handsOut (hop : op.IsClaim) (h : w.store.Has Store.workTables) :
    ∃ worker ws s, w.store.HandsOut worker w.clock ws s ∧
      (op.after w).store.queue = s.queue ∧ (op.after w).store.sessions = s.sessions := by
  obtain ⟨s, heffect, hleaves⟩ := op.hasEffect w h
  have hsame := And.intro hleaves.store.queue hleaves.store.sessions
  generalize op.report w = r at heffect
  cases heffect with
  | refused => exact ⟨"", [], _, .nil _, hsame⟩
  | @handedOut _ worker ws _ works => exact ⟨worker, ws, s, works, hsame⟩
  | @lost worker ws _ works => exact ⟨worker, ws, s, works, hsame⟩
  | _ => exact hop.elim

/-- A claim takes up exactly the work that it hands out. -/
lemma takesUp_iff_hasSession (hop : op.IsClaim) (hwell : w.store.WellFormed) {worker : String}
    {ws : List Work} {s : Store} (hgiven : w.store.HandsOut worker w.clock ws s)
    (hqueue : (op.after w).store.queue = s.queue) (sessionId : String) :
    op.TakesUp w sessionId ↔ hasSession ws sessionId = true := by
  obtain ⟨hleft, hsub, -⟩ := hgiven.queue_eq hwell.queueIds
  rw [takesUp_iff_of_isClaim hop, Store.hasQueued, Store.hasQueued, hqueue, hleft]
  constructor
  · rintro ⟨hbefore, hafter⟩
    obtain ⟨x, hx, hid⟩ := List.any_eq_true.1 hbefore
    by_contra hkept
    have hstays : x ∈ w.store.queue.filter fun x => !hasSession ws x.sessionId :=
      List.mem_filter.2 ⟨hx, by simpa [beq_iff_eq.1 hid] using hkept⟩
    exact List.any_eq_false.1 hafter x hstays hid
  · intro hgone
    obtain ⟨x, hx, hid⟩ := List.any_eq_true.1 hgone
    refine ⟨List.any_eq_true.2 ⟨x, hsub hx, hid⟩, List.any_eq_false.2 fun y hy hyid => ?_⟩
    have hy := (List.mem_filter.1 hy).2
    rw [beq_iff_eq.1 hyid, hgone] at hy
    exact absurd hy (by decide)

/-! ## What is done to the records -/

/-- The records after an operation are some of those before it, each of them changed at most in ways
that keep its session and its issue, and become active only if its work is taken up. -/
def Rewrites (op : Operation ω) (w : World ω) : Prop :=
  ∃ g : Session → Session, (∀ x, Session.SameOrigin x (g x)) ∧
    (op.after w).store.sessions.Sublist (w.store.sessions.map g) ∧
    ∀ x ∈ w.store.sessions, (g x).status.isActive = true →
      x.status.isActive = true ∨ op.TakesUp w x.sessionId

/-- Operations that only remove records rewrite none. -/
lemma rewrites_of_keeps {α : Type} {x : Run Store α} {report : α → Report}
    (hrun : op.run = World.onStore x >>= fun a => pure (report a)) (hx : x.Keeps Store.OnlyLoses) :
    op.Rewrites w := by
  have hafter : (op.after w).store = (x w.store).2 := by
    rw [after, hrun, Run.bind_apply, World.onStore_apply]
    rcases x w.store with ⟨_ | _, s⟩ <;> rfl
  have hloses : (op.after w).store.sessions.Sublist (w.store.sessions.map id) := by
    rw [hafter, List.map_id]
    exact hx w.store
  exact ⟨id, fun _ => ⟨rfl, rfl, rfl⟩, hloses, fun _ _ => Or.inl⟩

/-- Operations that change records in place rewrite those that become active. -/
lemma rewrites_of_map {g : Session → Session}
    (hsessions : (op.after w).store.sessions = w.store.sessions.map g)
    (hg : ∀ x, Session.SameOrigin x (g x))
    (hactive : ∀ x ∈ w.store.sessions, (g x).status.isActive = true →
      x.status.isActive = true ∨ op.TakesUp w x.sessionId) : op.Rewrites w :=
  ⟨g, hg, hsessions ▸ .refl _, hactive⟩

/-- A claim makes active only what it takes up. -/
lemma rewrites_of_isClaim (hop : op.IsClaim) (hwell : w.store.WellFormed) : op.Rewrites w := by
  obtain ⟨worker, ws, s, hgiven, hqueue, hsessions⟩ := exists_handsOut hop hwell.tables
  refine rewrites_of_map (hsessions.trans hgiven.sessions_eq) (fun x => ?_) fun x _ hactive => ?_
  · split
    · exact Store.sameOrigin_claimBy worker w.clock x
    · exact ⟨rfl, rfl, rfl⟩
  · rw [takesUp_iff_hasSession hop hwell hgiven hqueue]
    by_cases hgone : hasSession ws x.sessionId = true
    · exact Or.inr hgone
    · rw [if_neg hgone] at hactive
      exact Or.inl hactive

/-- Putting work back makes its session pending, whatever it was, even if the work is then not
queued. -/
lemma sessions_after_requeue (work : Work) (boost : Int) (h : w.store.Has Store.workTables) :
    ((requeue work boost).after w).store.sessions = w.store.sessions.map fun x =>
      if x.sessionId == work.sessionId then x.backToPending w.clock else x := by
  have hstep : Store.requeue work boost w.clock w.store = _ :=
    Store.requeue_of_has (h.mono (by simp [Store.workTables])) work boost w.clock
  rcases Store.enqueue_cases (work.boosted boost w.clock)
    (w.store.giveUp work.sessionId w.clock) with ⟨-, -, -, hq⟩ | hq | ⟨e, -, hq⟩
  · have hrun : (requeue work boost).run w = (.ok _, _) :=
      Run.bind_of_ok (World.onStore_of_eq (hstep.trans hq))
    rw [after, hrun]
    rfl
  · have hrun : (requeue work boost).run w = (.ok _, _) :=
      Run.bind_of_ok (World.onStore_of_eq (hstep.trans hq))
    rw [after, hrun]
    rfl
  · have hrun : (requeue work boost).run w =
        (.error e, { w with store := w.store.giveUp work.sessionId w.clock }) := by
      rw [run, Run.bind_of_ok (World.now_apply w)]
      exact Run.bind_of_error (World.onStore_of_eq (hstep.trans hq))
    rw [after, hrun]
    rfl

/-- Putting work back makes no other session active than its own. -/
lemma rewrites_requeue (work : Work) (boost : Int) (h : w.store.Has Store.workTables) :
    (requeue work boost).Rewrites w := by
  refine rewrites_of_map (sessions_after_requeue work boost h)
    (Store.sameOrigin_updateSession (Store.sameOrigin_backToPending w.clock) work.sessionId)
    fun x _ hactive => ?_
  -- The status is not looked at, so that only the id tells what may have become active.
  by_cases hid : (x.sessionId == work.sessionId) = true
  · exact Or.inr (beq_iff_eq.1 hid).symm
  · rw [if_neg hid] at hactive
    exact Or.inl hactive

/-- When the queue is rebuilt, only sessions that are active are queued again. -/
lemma rewrites_reset (h : w.store.Has Store.workTables) : (reset : Operation ω).Rewrites w := by
  have hreset : ∃ n, Store.reset w.clock w.store = (.ok n, w.store.rebuilt w.clock) :=
    ⟨_, Store.changing_of_has (h.mono (by simp [Store.workTables])) _⟩
  obtain ⟨n, hreset⟩ := hreset
  have hafter : ((reset : Operation ω).after w).store.sessions =
      (w.store.rebuilt w.clock).sessions := by
    rw [after, run, Run.bind_of_ok (World.onStoreNow_of_eq hreset)]
    rfl
  refine rewrites_of_map hafter (fun x => ?_) fun x _ hactive => ?_
  · split
    · exact ⟨rfl, rfl, rfl⟩
    · exact ⟨rfl, rfl, rfl⟩
  · split at hactive
    · rename_i hunfinished
      exact Or.inl (SessionStatus.isActive_of_isUnfinished hunfinished)
    · exact Or.inl hactive

/-- Every operation on the queue rewrites the records. -/
lemma rewrites (hop : op.IsOfQueue) (hwell : w.store.WellFormed) : op.Rewrites w := by
  cases op with
  | dispatch => exact hop.elim
  | updateStatus => exact hop.elim
  | elsewhere => exact hop.elim
  | claim => exact rewrites_of_isClaim trivial hwell
  | claimSession => exact rewrites_of_isClaim trivial hwell
  | poll => exact rewrites_of_isClaim trivial hwell
  | requeue work boost => exact rewrites_requeue work boost hwell.tables
  | reset => exact rewrites_reset hwell.tables
  | enqueue work => exact rewrites_of_keeps rfl (Store.enqueue_onlyLoses work)
  | remove => exact rewrites_of_keeps rfl (Store.changing_keeps _ fun _ => .refl _)
  | removeMatching =>
    exact rewrites_of_keeps rfl (Store.changing_keeps _ fun _ => List.filter_sublist)
  | clearQueue => exact rewrites_of_keeps rfl (Store.changing_keeps _ fun _ => .refl _)
  | releaseClaim => exact rewrites_of_keeps rfl (Store.changing_keeps _ fun _ => .refl _)
  | clearClaims => exact rewrites_of_keeps rfl (Store.changing_keeps _ fun _ => .refl _)

end Operation

/-! ## Statuses on record -/

/-- Every record has a status that is known. -/
def Store.AllKnown (s : Store) : Prop := ∀ x ∈ s.sessions, x.status.isKnown = true

/-- Some records may change to a known status. -/
lemma Store.AllKnown.update {s s' : Store} (h : s.AllKnown) {changed : Session → Bool}
    {f : Session → Session} (hf : ∀ x, (f x).status.isKnown = true)
    (hsessions : s'.sessions = s.sessions.map fun x => if changed x then f x else x) :
    s'.AllKnown := by
  intro y hy
  rw [hsessions] at hy
  obtain ⟨x, hx, rfl⟩ := List.mem_map.1 hy
  split
  · exact hf x
  · exact h x hx

/-- A record that is added has to have a known status. -/
lemma Store.AllKnown.withSession {s : Store} (h : s.AllKnown) {x : Session}
    (hx : x.status.isKnown = true) : (s.withSession x).AllKnown := by
  intro y hy
  rcases List.mem_append.1 hy with hy | hy
  · exact h y hy
  · obtain rfl := List.mem_singleton.1 hy
    exact hx

namespace Operation

variable {ω : Type}

/-- Whether a status to which an operation moves a session by hand is known. -/
def MovesToKnown : Operation ω → Prop
  | updateStatus _ status _ _ => status.isKnown = true
  | _ => True

lemma Effect.allKnown {now : Binary64} {s s' : Store} {op : Operation ω} {r : Report}
    (heffect : Effect now s op r s') (hop : op.MovesToKnown) (h : s.AllKnown) : s'.AllKnown := by
  cases heffect with
  | refused => exact h
  | queued => exact h
  | placed => exact Store.AllKnown.withSession h rfl
  | failed => exact Store.AllKnown.withSession h rfl
  | handedOut works => exact h.update (fun _ => rfl) works.sessions_eq
  | lost works => exact h.update (fun _ => rfl) works.sessions_eq
  | putBack => exact Store.AllKnown.update h (fun _ => rfl) rfl
  | givenUp => exact Store.AllKnown.update h (fun _ => rfl) rfl
  | removed => exact h
  | removedMatching => exact fun x hx => h x (List.mem_filter.1 hx).1
  | emptied => exact h
  | rebuilt => exact Store.AllKnown.update h (fun _ => rfl) rfl
  | unmarked => exact h
  | unmarkedAll => exact h
  | moved =>
    refine Store.AllKnown.update h (fun _ => ?_) rfl
    exact hop

/-- Whatever is done, no record gets a status that is not known: a move to one is refused. -/
lemma allKnown_after (op : Operation ω) {w : World ω} (htables : w.store.Has Store.workTables)
    (h : w.store.AllKnown) : (op.after w).store.AllKnown := by
  have hkept (hop : op.MovesToKnown) : (op.after w).store.AllKnown := by
    obtain ⟨s, heffect, hleaves⟩ := op.hasEffect w htables
    intro x hx
    rw [hleaves.store.sessions] at hx
    exact heffect.allKnown hop h x hx
  cases op with
  | updateStatus sessionId status worker error =>
    by_cases hknown : status.isKnown = true
    · exact hkept hknown
    · have hrefuse : Store.updateStatus sessionId status worker error w.clock w.store =
          (.error (.invalidSessionStatus status.name), w.store) := by
        rw [Store.updateStatus, if_pos (by simpa using hknown)]
        rfl
      rw [after, run, Run.bind_of_error (World.onStoreNow_of_eq hrefuse)]
      exact h
  | _ => exact hkept trivial

end Operation

/-! ## Sessions that come back -/

namespace Store

/-- Whether a session is on record as active. -/
def IsLive (s : Store) (sessionId : String) : Prop :=
  ∃ x ∈ s.sessions, x.sessionId = sessionId ∧ x.status.isActive = true

instance (s : Store) (sessionId : String) : Decidable (s.IsLive sessionId) :=
  inferInstanceAs (Decidable (∃ x ∈ s.sessions, _))

/-- The number of active sessions of an issue. -/
def liveCount (s : Store) (issueId : String) : Nat :=
  s.sessions.countP fun x => x.issueId == issueId && x.status.isActive

end Store

namespace Operation

variable {ω : Type} {op : Operation ω} {w : World ω}

/-- Work that is taken up makes its session active. -/
lemma isLive_after_of_takesUp (hwell : w.store.WellFormed) {x : Session}
    (hx : x ∈ w.store.sessions) (htaken : op.TakesUp w x.sessionId) :
    (op.after w).store.IsLive x.sessionId := by
  have hclaimed (hop : op.IsClaim) : (op.after w).store.IsLive x.sessionId := by
    obtain ⟨worker, ws, s, hgiven, hqueue, hsessions⟩ := exists_handsOut hop hwell.tables
    rw [takesUp_iff_hasSession hop hwell hgiven hqueue] at htaken
    refine ⟨x.claimBy worker w.clock, ?_, rfl, rfl⟩
    rw [hsessions, hgiven.sessions_eq]
    exact List.mem_map.2 ⟨x, hx, if_pos htaken⟩
  cases op with
  | claim => exact hclaimed trivial
  | claimSession => exact hclaimed trivial
  | poll => exact hclaimed trivial
  | requeue work boost =>
    refine ⟨x.backToPending w.clock, ?_, rfl, rfl⟩
    rw [sessions_after_requeue work boost hwell.tables]
    exact List.mem_map.2 ⟨x, hx, if_pos (beq_iff_eq.2 (Eq.symm htaken))⟩
  | _ => exact htaken.elim

/-- An operation on the queue revives a session that is over exactly if it takes up its work. -/
lemma isLive_after_iff_takesUp (hop : op.IsOfQueue) (hwell : w.store.WellFormed) {x : Session}
    (hx : x ∈ w.store.sessions) (hover : x.status.isTerminal = true) :
    (op.after w).store.IsLive x.sessionId ↔ op.TakesUp w x.sessionId := by
  refine ⟨?_, isLive_after_of_takesUp hwell hx⟩
  rintro ⟨y, hy, hid, hactive⟩
  obtain ⟨g, hg, hsub, hrevived⟩ := rewrites hop hwell
  obtain ⟨z, hz, rfl⟩ := List.mem_map.1 (hsub.subset hy)
  obtain rfl : z = x := hwell.eq_of_sessionId hz hx ((hg z).sessionId.symm.trans hid)
  rcases hrevived z hz hactive with hactive | htaken
  · rw [SessionStatus.isActive_eq_false hover] at hactive
    exact nomatch hactive
  · exact htaken

/-- An operation on the queue that takes up the work of no session that is over gives no issue more
active sessions. -/
lemma liveCount_after_le (hop : op.IsOfQueue) (hwell : w.store.WellFormed)
    (hknown : w.store.AllKnown)
    (hspared : ∀ x ∈ w.store.sessions, x.status.isTerminal = true → ¬ op.TakesUp w x.sessionId)
    (issueId : String) : (op.after w).store.liveCount issueId ≤ w.store.liveCount issueId := by
  obtain ⟨g, hg, hsub, hrevived⟩ := rewrites hop hwell
  have hactive : ∀ x ∈ w.store.sessions, (g x).status.isActive = true →
      x.status.isActive = true := by
    intro x hx hg
    rcases hrevived x hx hg with hactive | htaken
    · exact hactive
    · refine SessionStatus.isActive_of_not_isTerminal (hknown x hx) ?_
      by_contra hover
      exact hspared x hx (by simpa using hover) htaken
  calc (op.after w).store.liveCount issueId
      ≤ (w.store.sessions.map g).countP fun x => x.issueId == issueId && x.status.isActive :=
        hsub.countP_le
    _ = w.store.sessions.countP fun x => (g x).issueId == issueId && (g x).status.isActive := by
        rw [List.countP_map]
        rfl
    _ ≤ w.store.liveCount issueId := by
        refine List.countP_mono_left fun x hx h => ?_
        rw [(hg x).issueId, Bool.and_eq_true] at h
        rw [Bool.and_eq_true]
        exact ⟨h.1, hactive x hx h.2⟩

end Operation

namespace World

variable {ω : Type}

/-- In every run the store stays well-formed, and no status that is not known gets on record. -/
lemma wellFormed_runAll {w : World ω} (hnow : w.clock.isNaN = false) (hwell : w.store.WellFormed)
    (hknown : w.store.AllKnown) (ops : List (Operation ω)) :
    (w.runAll ops).store.WellFormed ∧ (w.runAll ops).store.AllKnown := by
  induction ops generalizing w with
  | nil => exact ⟨hwell, hknown⟩
  | cons op ops ih =>
    have hafter := op.wellFormed_after hnow hwell
    exact ih hafter.1 hafter.2 (op.allKnown_after hwell.tables hknown)

/-- In every state that a run reaches, an operation on the queue makes a session that is over active
again exactly if it takes up work of that session, and one that takes up no such work gives no issue
a further active session. -/
theorem revived_iff_takesUp {w : World ω} (hempty : w.store = {}) (hnow : w.clock.isNaN = false)
    (ops : List (Operation ω)) {op : Operation ω} (hop : op.IsOfQueue) :
    (∀ x ∈ (w.runAll ops).store.sessions, x.status.isTerminal = true →
        ((op.after (w.runAll ops)).store.IsLive x.sessionId ↔
          op.TakesUp (w.runAll ops) x.sessionId)) ∧
      ((∀ x ∈ (w.runAll ops).store.sessions, x.status.isTerminal = true →
          ¬ op.TakesUp (w.runAll ops) x.sessionId) →
        ∀ issueId, (op.after (w.runAll ops)).store.liveCount issueId ≤
          (w.runAll ops).store.liveCount issueId) := by
  have hwell : w.store.WellFormed := hempty ▸ .new
  have hknown : w.store.AllKnown := by
    rw [hempty]
    exact fun x hx => nomatch hx
  obtain ⟨hwell, hknown⟩ := wellFormed_runAll hnow hwell hknown ops
  exact ⟨fun x hx hover => Operation.isLive_after_iff_takesUp hop hwell hx hover,
    Operation.liveCount_after_le hop hwell hknown⟩

/-- The work of an issue is dispatched under a given session id. -/
def placingAs (issueId sessionId : String) : Operation Unit :=
  .dispatch (.fixed [] sessionId) (Tracker.isQuiet_fixed [] sessionId) (.inBacklog issueId)
    "development"

/-- The work that `placingAs` queues. -/
def workPlacedAs (issueId sessionId : String) : Work :=
  StoreBacked.newWork (.inBacklog issueId) sessionId "development" 3 none 0

/-- An agent claims the work of an issue and completes its session, and the issue is dispatched
again. -/
def repeatedRun : List (Operation Unit) :=
  [placingAs "a" "r", .claimSession "r" "u", .updateStatus "r" .completed none none,
    placingAs "a" "s"]

/-- After an issue has been dispatched again, a worker that claims its new work leaves the first
session as it is and the issue with one active session. -/
theorem revived_iff_takesUp_repeatedRun :
    ¬ ((Operation.claim "v" none).after (fresh.runAll repeatedRun)).store.IsLive "r" ∧
      ((Operation.claim "v" none).after (fresh.runAll repeatedRun)).store.liveCount "a" ≤ 1 := by
  have hop : (Operation.claim "v" none : Operation Unit).IsOfQueue := trivial
  have hempty : fresh.store = {} := rfl
  obtain ⟨hrevived, hcount⟩ := revived_iff_takesUp hempty (by decide +kernel) repeatedRun hop
  have hover : ∃ x ∈ (fresh.runAll repeatedRun).store.sessions,
      x.sessionId = "r" ∧ x.status.isTerminal = true := by decide +kernel
  have hspared : ∀ x ∈ (fresh.runAll repeatedRun).store.sessions, x.status.isTerminal = true →
      ¬ (Operation.claim "v" none).TakesUp (fresh.runAll repeatedRun) x.sessionId := by
    decide +kernel
  have hone : (fresh.runAll repeatedRun).store.liveCount "a" = 1 := by decide +kernel
  obtain ⟨x, hx, hid, hx_over⟩ := hover
  refine ⟨?_, hone ▸ hcount hspared "a"⟩
  rw [← hid, hrevived x hx hx_over]
  exact hspared x hx hx_over

/-- A session is completed while its work is still queued, and its issue is dispatched again. -/
def overtakenRun : List (Operation Unit) :=
  [placingAs "a" "r", .updateStatus "r" .completed none none, placingAs "a" "s"]

/-- Neither a claim nor putting back work that was once handed out leaves every session over that
is over, and either of them can give an issue a second active session. -/
theorem not_final_of_takesUp :
    (¬ ∀ ops, ∀ op : Operation Unit, op.IsClaim → ∀ x ∈ (fresh.runAll ops).store.sessions,
        x.status.isTerminal = true → ¬ (op.after (fresh.runAll ops)).store.IsLive x.sessionId) ∧
      (¬ ∀ ops, ∀ op : Operation Unit, op.IsClaim → ∀ issueId,
        (fresh.runAll ops).store.liveCount issueId ≤ 1 →
          (op.after (fresh.runAll ops)).store.liveCount issueId ≤ 1) ∧
      (¬ ∀ ops work boost, .handedOut work ∈ fresh.ledger ops →
        ∀ x ∈ (fresh.runAll ops).store.sessions, x.status.isTerminal = true →
          ¬ ((Operation.requeue work boost).after (fresh.runAll ops)).store.IsLive x.sessionId) ∧
      ¬ ∀ ops work boost, .handedOut work ∈ fresh.ledger ops →
        ∀ issueId, (fresh.runAll ops).store.liveCount issueId ≤ 1 →
          ((Operation.requeue work boost).after
            (fresh.runAll ops)).store.liveCount issueId ≤ 1 := by
  have hgiven : .handedOut (workPlacedAs "a" "r") ∈ fresh.ledger repeatedRun := by
    decide +kernel
  refine ⟨fun h => ?_, fun h => ?_, fun h => ?_, fun h => ?_⟩
  · exact absurd (h overtakenRun (.claimSession "r" "u") trivial) (by decide +kernel)
  · have hone : (fresh.runAll overtakenRun).store.liveCount "a" ≤ 1 := by decide +kernel
    exact absurd (h overtakenRun (.claimSession "r" "u") trivial "a" hone) (by decide +kernel)
  · exact absurd (h repeatedRun (workPlacedAs "a" "r") 1 hgiven) (by decide +kernel)
  · have hone : (fresh.runAll repeatedRun).store.liveCount "a" ≤ 1 := by decide +kernel
    exact absurd (h repeatedRun (workPlacedAs "a" "r") 1 hgiven "a" hone) (by decide +kernel)

end World

end IssueDispatch
