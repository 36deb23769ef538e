import IssueDispatch.Proofs.Expiry
import IssueDispatch.Proofs.Standard

/-!
# A dispatch is all or nothing

A dispatch writes to two tables in two transactions: it records a session, and then it queues the
work.  Each of the two can be refused, and what the first one has done has to be made up for if the
second one is.  `StoreBacked.dispatch_allOrNothing` says that it is: in whatever state the two
tables are, and whatever identifier is given out, either a pending session and its work are there
afterwards, or nothing is queued and no session has become active.
-/

namespace IssueDispatch

variable {ω : Type}

/-- A record and queued work describe one session alike. -/
structure Session.IsQueuedAs (x : Session) (w : Work) : Prop where
  sessionId : x.sessionId = w.sessionId
  issueId : x.issueId = w.issueId
  issueIdentifier : x.issueIdentifier = some w.issueIdentifier
  projectName : x.projectName = w.projectName
  priority : x.priority = some w.priority
  queuedAt : x.queuedAt = some w.queuedAt
  workType : x.workType = some w.workType

/-- How a dispatch of an issue under an identifier may end that is given out for a session: with
which result, and with which sessions and which queue in place of those of a store. -/
inductive Store.Dispatches (s : Store) (issue : Issue) (workType sessionId : String) :
    Except Fault Unit → Store → Prop
  /-- A pending session of an idle issue has been recorded, and its work has been queued. -/
  | placed {s' : Store} (x : Session) (w : Work) (idle : s.isBusy issue.id = false)
      (pending : x.status = .pending) (alike : x.IsQueuedAs w) (id : w.sessionId = sessionId)
      (purpose : w.issueId = issue.id ∧ w.projectName = issue.project ∧ w.workType = workType)
      (sessions : s'.sessions = s.sessions ++ [x]) (queue : s'.queue = s.queue ++ [w]) :
      Dispatches s issue workType sessionId (.ok ()) s'
  /-- The issue was busy, and nothing has been written. -/
  | busy {s' : Store} (busy : s.isBusy issue.id = true) (sessions : s'.sessions = s.sessions)
      (queue : s'.queue = s.queue) :
      Dispatches s issue workType sessionId (.error (.issueBusy issue.id issue.identifier)) s'
  /-- Nothing has been queued, and at most a session that has failed has been recorded. -/
  | failed {s' : Store} (detail : String) (leftover : Option Session)
      (idle : s.isBusy issue.id = false)
      (ended : ∀ x ∈ leftover, x.sessionId = sessionId ∧ x.issueId = issue.id ∧ x.status = .failed)
      (sessions : s'.sessions = s.sessions ++ leftover.toList) (queue : s'.queue = s.queue) :
      Dispatches s issue workType sessionId (.error (.dispatchFailed issue.id detail)) s'

namespace Store.Dispatches

variable {s s' : Store} {issue : Issue} {workType sessionId : String} {result : Except Fault Unit}

/-- Without success nothing is queued, the active sessions stay what they are, and so do all records
that have been there before. -/
lemma nothing_of_error (h : s.Dispatches issue workType sessionId result s') {e : Fault}
    (herror : result = .error e) :
    s'.queue = s.queue ∧ s.sessions <+: s'.sessions ∧
      (s'.sessions.filter fun x => x.status.isActive) =
        s.sessions.filter fun x => x.status.isActive := by
  cases h with
  | placed => cases herror
  | busy _ sessions queue =>
    rw [sessions]
    exact ⟨queue, List.prefix_rfl, rfl⟩
  | failed detail leftover _ ended sessions queue =>
    rw [sessions, List.filter_append]
    refine ⟨queue, List.prefix_append _ _, ?_⟩
    have hover : (leftover.toList.filter fun x => x.status.isActive) = [] := by
      rw [List.filter_eq_nil_iff]
      intro x hx
      rw [(ended x (Option.mem_toList.1 hx)).2.2]
      exact Bool.false_ne_true
    rw [hover, List.append_nil]

/-- That the issue is busy is reported exactly if it is. -/
lemma eq_issueBusy_iff (h : s.Dispatches issue workType sessionId result s') :
    result = .error (.issueBusy issue.id issue.identifier) ↔ s.isBusy issue.id = true := by
  cases h with
  | placed _ _ idle => simp [idle]
  | busy busy => simp [busy]
  | failed _ _ idle => simp [idle]

/-- Only the sessions and the queue that a dispatch starts from matter. -/
lemma of_eq {t : Store} (h : s.Dispatches issue workType sessionId result s')
    (hsessions : s.sessions = t.sessions) (hqueue : s.queue = t.queue) :
    t.Dispatches issue workType sessionId result s' := by
  have hbusy : s.isBusy issue.id = t.isBusy issue.id := by rw [isBusy, isBusy, hsessions]
  cases h with
  | placed x w idle pending alike id purpose sessions queue =>
    exact .placed x w (hbusy ▸ idle) pending alike id purpose (hsessions ▸ sessions)
      (hqueue ▸ queue)
  | busy busy sessions queue =>
    exact .busy (hbusy ▸ busy) (hsessions ▸ sessions) (hqueue ▸ queue)
  | failed detail leftover idle ended sessions queue =>
    exact .failed detail leftover (hbusy ▸ idle) ended (hsessions ▸ sessions) (hqueue ▸ queue)

end Store.Dispatches

namespace Store

/-- An identifier that is on record already is refused. -/
lemma createIfIdle_of_taken {s : Store} {n : NewSession} {now : Binary64} (h : s.Has [.sessions])
    (hidle : s.isBusy n.issueId = false) (htaken : (s.findSession n.sessionId).isSome = true)
    (hstored : n.priority.forM requireInteger s = .ok ((), s)) :
    createIfIdle n now s = (.error (.duplicateKey "sessions.session_id"), s) := by
  have hread := Transaction.get_apply s
  rw [createIfIdle, Run.bind_of_error (Run.atomically_error ?_)]
  rw [Transaction.bind_of_ok (requireTable_of_notMem (h _ (by simp))),
    Transaction.bind_of_ok hread, if_neg (Bool.eq_false_iff.1 hidle),
    Transaction.bind_of_ok hstored, Transaction.bind_of_ok hread, if_pos htaken]
  rfl

end Store

namespace StoreBacked

variable {b : StoreBacked ω} {issue : Issue} {workType sessionId : String} {priority : Nat}
  {prompt : Option String} {now : Binary64} {w : World ω}

/-! ## The two transactions -/

/-- An identifier that is on record already fails before anything is written. -/
lemma place_of_taken (hsessions : w.store.Has [.sessions])
    (hp : Store.IsStorable priority) (hidle : w.store.isBusy issue.id = false)
    (htaken : (w.store.findSession sessionId).isSome = true) :
    place issue workType sessionId priority prompt now w =
      (.error (.dispatchFailed issue.id ("Failed to register session for " ++ issue.identifier ++
        ": " ++ (Fault.duplicateKey "sessions.session_id").message)), w) := by
  have hcreate : Store.createIfIdle (newSession issue sessionId workType priority now) now
      w.store = (.error (.duplicateKey "sessions.session_id"), w.store) :=
    Store.createIfIdle_of_taken hsessions hidle htaken (Store.requirePriority_of_isStorable hp)
  rw [place, Run.bind_of_ok (Run.attempt_apply _ w), World.onStore_apply, hcreate]
  rfl

/-- Work that is refused leaves a session behind that has failed. -/
lemma place_of_refused (hthere : w.store.Has [.sessions, .workQueue])
    (hp : Store.IsStorable priority) (hidle : w.store.isBusy issue.id = false)
    (hsession : w.store.findSession sessionId = none)
    (hrefused : (now.isNaN || w.store.hasQueued sessionId) = true) :
    place issue workType sessionId priority prompt now w =
      (.error (.dispatchFailed issue.id
          ("Failed to queue " ++ workType ++ " work for " ++ issue.identifier)), { w with
        store := w.store.withSession
          (failedSession issue workType sessionId priority now "enqueue failed") }) := by
  have hsessions : w.store.Has [.sessions] := hthere.mono (by simp)
  let placed := w.store.withSession (placedSession issue workType sessionId priority now)
  have hcreate : Store.createIfIdle (newSession issue sessionId workType priority now) now
      w.store = (.ok (some (placedSession issue workType sessionId priority now)), placed) :=
    Store.createIfIdle_of_idle hsessions hidle hsession (Store.requirePriority_of_isStorable hp)
  have henqueue : Store.enqueue (newWork issue sessionId workType priority prompt now) placed =
      (.ok false, placed) := by
    have hthere' : placed.Has [.workQueue] := fun t ht => hthere t (List.mem_cons_of_mem _ ht)
    rw [Store.enqueue_of_has hthere' hp]
    exact if_pos hrefused
  have hfail : World.onStore (ω := ω)
      (Store.updateStatus sessionId .failed none (some "enqueue failed") now)
      { w with store := placed } = (.ok true, { w with
        store := w.store.withSession
          (failedSession issue workType sessionId priority now "enqueue failed") }) :=
    World.onStore_of_eq (updateStatus_placedSession issue workType sessionId priority now
      hsessions hsession "enqueue failed")
  rw [place, Run.bind_of_ok (Run.attempt_apply _ w), World.onStore_apply, hcreate]
  dsimp only
  rw [Run.bind_of_ok (Run.attempt_apply _ _), World.onStore_apply, henqueue]
  dsimp only
  rw [bind_assoc, Run.bind_of_ok hfail]
  rfl

/-- Whatever the tables hold, recording a session and queueing its work come together or not at
all. -/
lemma dispatches_place (issue : Issue) (workType sessionId : String) (prompt : Option String)
    (now : Binary64) (hthere : w.store.Has [.sessions, .workQueue])
    (hp : Store.IsStorable priority) :
    w.store.Dispatches issue workType sessionId
        (place issue workType sessionId priority prompt now w).1
        (place issue workType sessionId priority prompt now w).2.store ∧
      ((place issue workType sessionId priority prompt now w).1 = .ok () ↔
        w.store.isBusy issue.id = false ∧ w.store.findSession sessionId = none ∧
          w.store.hasQueued sessionId = false ∧ now.isNaN = false) := by
  have hsessions : w.store.Has [.sessions] := hthere.mono (by simp)
  cases hbusy : w.store.isBusy issue.id with
  | true =>
    rw [place_of_busy hsessions hbusy]
    exact ⟨.busy hbusy rfl rfl, by simp⟩
  | false =>
    rcases hsession : w.store.findSession sessionId with - | x
    · cases hrefused : now.isNaN || w.store.hasQueued sessionId with
      | true =>
        rw [place_of_refused hthere hp hbusy hsession hrefused]
        refine ⟨.failed _ (some _) hbusy ?_ rfl rfl, ?_⟩
        · rintro x ⟨⟩
          exact ⟨rfl, rfl, rfl⟩
        · rw [Bool.or_eq_true] at hrefused
          rcases hrefused with h | h <;> simp [h]
      | false =>
        obtain ⟨hclock, hqueue⟩ := Bool.or_eq_false_iff.1 hrefused
        rw [place_of_idle hthere hclock hp hbusy hsession hqueue]
        refine ⟨.placed _ _ hbusy rfl ?_ rfl ⟨rfl, rfl, rfl⟩ rfl rfl, by simp [hclock, hqueue]⟩
        refine ⟨rfl, rfl, rfl, rfl, rfl, ?_, rfl⟩
        show Option.bind (some now) Store.kept = some now
        rw [Option.bind_some, Store.kept, hclock]
        rfl
    · rw [place_of_taken hsessions hp hbusy (Option.isSome_of_eq_some hsession)]
      exact ⟨.failed _ none hbusy (by simp) (List.append_nil _).symm rfl, by simp⟩

/-! ## The whole dispatch -/

/-- A dispatch that is told an identifier and a prompt comes to write to the tables. -/
lemma exists_dispatch_eq_place (hquiet : b.tracker.IsQuiet) (hshelf : b.shelf.IsThere w)
    {w₁ : World ω} (hid : b.tracker.newSessionId w = (.ok sessionId, w₁))
    (hprompt : ∀ v, ∃ prompt, (b.tracker.prompt issue workType v).1 = .ok prompt) :
    ∃ v priority prompt, w.OnlyLapsed v ∧ Store.IsStorable (priority : Nat) ∧
      b.dispatch issue workType w =
        place issue workType sessionId priority prompt w.clock v := by
  have h₁ := World.OnlyLapsed.of_onlyOutside (hquiet.newSessionId.of_apply_eq hid)
  have hshelf₁ : b.shelf.IsThere w₁ := by
    obtain ⟨o, rfl⟩ := hquiet.newSessionId.of_apply_eq hid
    cases hb : b.shelf <;> rw [hb] at hshelf <;> exact hshelf
  obtain ⟨w₂, h₂, hget | ⟨e, hget⟩⟩ := b.shelf.get_cases issue.id w₁
  · obtain ⟨prompt, hresult⟩ := hprompt w₂
    have hprompt₃ : b.tracker.prompt issue workType w₂ =
        (.ok prompt, (b.tracker.prompt issue workType w₂).2) := Prod.ext hresult rfl
    have h₃ := World.OnlyLapsed.of_onlyOutside ((hquiet.prompt _ _).of_apply_eq hprompt₃)
    let priority := OverridePriority.rank ((b.shelf.inForce w₁ issue.id).bind Override.priority?)
    have hrank : b.workPriority issue.id w₁ = (.ok priority, w₂) :=
      Run.bind_of_ok (Run.bind_of_ok hget)
    refine ⟨_, priority, prompt, (h₁.trans h₂).trans h₃, OverridePriority.isStorable_rank _, ?_⟩
    rw [dispatch_eq, Run.bind_of_ok hid, Run.bind_of_ok hrank,
      Run.bind_of_ok (World.now_apply w₂), Run.bind_of_ok hprompt₃, h₂.clock, h₁.clock]
  · rw [OverrideShelf.get_of_isThere hshelf₁] at hget
    cases hget

/-- A dispatch records a pending session and queues its work, and the issue was idle; or it reports
that the issue is busy, exactly if it is, and changes neither table; or it reports that it has
failed, nothing is queued, no session has become active and no record has changed. -/
theorem dispatch_allOrNothing (issue : Issue) (workType : String) (hquiet : b.tracker.IsQuiet)
    (htables : w.store.Has [.sessions, .workQueue]) (hshelf : b.shelf.IsThere w) {w₁ : World ω}
    (hid : b.tracker.newSessionId w = (.ok sessionId, w₁))
    (hprompt : ∀ v, ∃ prompt, (b.tracker.prompt issue workType v).1 = .ok prompt) :
    ∃ result w', b.dispatch issue workType w = (result, w') ∧
      w.store.Dispatches issue workType sessionId result w'.store ∧
      (result = .ok () ↔ w.store.isBusy issue.id = false ∧
        w.store.findSession sessionId = none ∧ w.store.hasQueued sessionId = false ∧
        w.clock.isNaN = false) ∧
      (result = .error (.issueBusy issue.id issue.identifier) ↔
        w.store.isBusy issue.id = true) ∧
      (∀ e, result = .error e → w'.store.queue = w.store.queue ∧
        w.store.sessions <+: w'.store.sessions ∧
        (w'.store.sessions.filter fun x => x.status.isActive) =
          w.store.sessions.filter fun x => x.status.isActive) := by
  obtain ⟨v, priority, prompt, hlapsed, hp, hplace⟩ :=
    exists_dispatch_eq_place hquiet hshelf hid hprompt
  have htables' := htables.of_missing_eq hlapsed.missing
  obtain ⟨hends, hok⟩ := dispatches_place issue workType sessionId prompt w.clock htables' hp
  rcases hresult : place issue workType sessionId priority prompt w.clock v with ⟨result, w'⟩
  rw [hresult] at hplace hends hok
  have hends := hends.of_eq hlapsed.sessions hlapsed.queue
  refine ⟨result, w', hplace, hends, ?_, hends.eq_issueBusy_iff, fun e => hends.nothing_of_error⟩
  rw [hok, Store.isBusy, Store.findSession, Store.hasQueued, hlapsed.sessions, hlapsed.queue]
  rfl

/-- A world in whose queue the work of an issue `b` waits under an identifier without a record. -/
def unrecorded : World Unit where
  clock := 0
  store := { queue := [newWork (.inBacklog "b") "s" "development" 3 none 0] }
  outside := ()

/-- When that identifier is given out again for another issue, its work is refused: the issue stays
idle, and the queue is what it was. -/
theorem dispatch_allOrNothing_unrecorded :
    (fixed [] "s" : StoreBacked Unit).tracker.IsQuiet ∧
      unrecorded.store.Has [.sessions, .workQueue] ∧
      (fixed [] "s" : StoreBacked Unit).shelf.IsThere unrecorded ∧
      ∃ detail w', (fixed [] "s").dispatch (.inBacklog "a") "development" unrecorded =
          (.error (.dispatchFailed "a" detail), w') ∧
        w'.store.queue = unrecorded.store.queue ∧
        (w'.store.sessions.filter fun x => x.status.isActive) = [] := by
  have hquiet := Tracker.isQuiet_fixed (ω := Unit) [] "s"
  have htables : unrecorded.store.Has [.sessions, .workQueue] := Store.has_of_missing rfl _
  have hshelf : OverrideShelf.shared.IsThere unrecorded := OverrideShelf.isThere_of_missing rfl
  obtain ⟨result, w', hrun, hends, hok, hbusy, hnothing⟩ :=
    dispatch_allOrNothing (b := fixed [] "s") (.inBacklog "a") "development" hquiet htables hshelf
      rfl fun _ => ⟨none, rfl⟩
  refine ⟨hquiet, htables, hshelf, ?_⟩
  cases hends with
  | placed => cases (hok.1 rfl).2.2.1
  | busy busy => cases busy
  | failed detail =>
    obtain ⟨hqueue, -, hactive⟩ := hnothing _ rfl
    exact ⟨detail, w', hrun, hqueue, hactive⟩

end StoreBacked

end IssueDispatch
