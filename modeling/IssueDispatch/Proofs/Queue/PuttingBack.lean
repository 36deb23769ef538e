import IssueDispatch.Proofs.Queue.Foresight
import IssueDispatch.Proofs.Queue.Ledger

/-!
# Putting work back

A worker that puts claimed work back gives up its claim and lets the session wait again; then the
work is queued, with a better priority.  These are two transactions.  If the second one refuses the
work, because the session is queued already or because the priority or the time does not fit, the
first one stands: the claim is lost, and the session waits without work in the queue of its own.
`Store.putsBackWhole_iff` says when putting work back is all or nothing: exactly if the second
transaction accepts the work, or the first one has nothing to give up.

The work that is put back counts as queued now, and its priority is not improved beyond zero.  Work
of priority zero therefore falls behind what was queued after it, and
`World.claimedBefore_requeued_iff` says of every piece of work that came later in the order of
claims whether it still does.
-/

namespace IssueDispatch

namespace Store

variable {s : Store} {w : Work} {boost : Int} {now : Binary64}

/-! ## All or nothing -/

/-- Some work has been put back: its session is claimed by nobody and waits, and `row` is what is
queued of it. -/
structure HasBack (s : Store) (row : Work) : Prop where
  claims : ∀ c ∈ s.claims, c.sessionId ≠ row.sessionId
  sessions : ∀ x ∈ s.sessions, x.sessionId = row.sessionId →
    x.status = .pending ∧ x.workerId = none ∧ x.claimedAt = none
  queue : (s.queue.filter fun v => v.sessionId == row.sessionId) = [row]

/-- Putting work back either does all that is to be done or leaves the tables of work alone. -/
structure PutsBackWhole (s : Store) (w : Work) (boost : Int) (now : Binary64) : Prop where
  refused : (requeue w boost now s).1 ≠ .ok true → s.SameWork (requeue w boost now s).2
  done : (requeue w boost now s).1 = .ok true → (requeue w boost now s).2.HasBack
    { w with priority := max 0 (w.priority - boost), queuedAt := now }

/-- The queue takes the work as it is put back. -/
structure TakesBack (s : Store) (w : Work) (boost : Int) (now : Binary64) : Prop where
  table : .workQueue ∉ s.missing
  time : now.isNaN = false
  free : ∀ v ∈ s.queue, v.sessionId ≠ w.sessionId
  priority : w.priority - boost < twoPow 63

/-- Nobody claims the session, and its records are as if it had just been given up. -/
structure IsGivenUp (s : Store) (sessionId : String) (now : Binary64) : Prop where
  claims : ∀ c ∈ s.claims, c.sessionId ≠ sessionId
  sessions : ∀ x ∈ s.sessions, x.sessionId = sessionId →
    x.status = .pending ∧ x.workerId = none ∧ x.claimedAt = none ∧ x.updatedAt = now

/-! ## What is given up -/

lemma backToPending_eq_iff {x : Session} :
    x.backToPending now = x ↔
      x.status = .pending ∧ x.workerId = none ∧ x.claimedAt = none ∧ x.updatedAt = now := by
  cases x
  simp [Session.backToPending, eq_comm]

lemma updateSession_sessions_eq_iff {sessionId : String} {f : Session → Session} :
    (s.updateSession sessionId f).sessions = s.sessions ↔
      ∀ x ∈ s.sessions, x.sessionId = sessionId → f x = x := by
  have hmap : (s.updateSession sessionId f).sessions = s.sessions ↔
      s.sessions.map (fun x => if x.sessionId == sessionId then f x else x) =
        s.sessions.map id := by
    rw [List.map_id]
    rfl
  rw [hmap, List.map_inj_left]
  refine forall₂_congr fun x _ => ?_
  by_cases hx : x.sessionId = sessionId <;> simp [hx]

/-- Giving a claim up changes nothing exactly if there is none to give up. -/
lemma sameWork_giveUp_iff {sessionId : String} :
    s.SameWork (s.giveUp sessionId now) ↔ s.IsGivenUp sessionId now := by
  have hclaims : (s.giveUp sessionId now).claims = s.claims ↔
      ∀ c ∈ s.claims, c.sessionId ≠ sessionId := by
    change s.claims.filter _ = s.claims ↔ _
    simp [List.filter_eq_self]
  have hsessions : (s.giveUp sessionId now).sessions = s.sessions ↔
      ∀ x ∈ s.sessions, x.sessionId = sessionId → x.backToPending now = x :=
    updateSession_sessions_eq_iff (s := s.unmark sessionId)
  constructor
  · intro h
    refine ⟨hclaims.1 h.claims, fun x hx hid => ?_⟩
    exact backToPending_eq_iff.1 (hsessions.1 h.sessions x hx hid)
  · intro h
    refine ⟨rfl, rfl, hclaims.2 h.claims, hsessions.2 fun x hx hid => ?_⟩
    exact backToPending_eq_iff.2 (h.sessions x hx hid)

/-! ## What is queued -/

lemma isStorable_boosted_iff :
    IsStorable (w.boosted boost now).priority ↔ w.priority - boost < twoPow 63 := by
  have hpow : (0 : Int) < twoPow 63 := by decide
  change -(twoPow 63 : Int) ≤ max 0 (w.priority - boost) ∧
    max 0 (w.priority - boost) < twoPow 63 ↔ _
  omega

/-- Only work whose priority fits is queued. -/
lemma isStorable_of_enqueue (h : (enqueue w s).1 = .ok true) : IsStorable w.priority := by
  refine Decidable.byContradiction fun hpriority => ?_
  by_cases ht : .workQueue ∈ s.missing
  · rw [enqueue, Run.atomically_error (Transaction.bind_of_error (requireTable_of_mem ht))] at h
    cases h
  · rw [enqueue, Run.atomically, Transaction.bind_of_ok (requireTable_of_notMem ht),
      Transaction.bind_of_error (requireInteger_of_not_isStorable hpriority)] at h
    cases h

/-- The queue takes the work at its end, or refuses it without a change. -/
lemma enqueue_boosted_giveUp (s : Store) (w : Work) (boost : Int) (now : Binary64) :
    (s.TakesBack w boost now ∧ enqueue (w.boosted boost now) (s.giveUp w.sessionId now) =
        (.ok true, (s.giveUp w.sessionId now).withWork (w.boosted boost now))) ∨
      ¬ s.TakesBack w boost now ∧ ∃ r, r ≠ .ok true ∧
        enqueue (w.boosted boost now) (s.giveUp w.sessionId now) =
          (r, s.giveUp w.sessionId now) := by
  have hfree : (s.giveUp w.sessionId now).hasQueued w.sessionId = false ↔
      ∀ v ∈ s.queue, v.sessionId ≠ w.sessionId := by
    simp [hasQueued, giveUp, unmark, updateSession]
  by_cases htakes : s.TakesBack w boost now
  · have htable : (s.giveUp w.sessionId now).Has [.workQueue] :=
      fun t ht => List.mem_singleton.1 ht ▸ htakes.table
    refine .inl ⟨htakes, ?_⟩
    rw [enqueue_of_has htable (isStorable_boosted_iff.2 htakes.priority), if_neg]
    rw [Bool.or_eq_true, not_or, Bool.not_eq_true, Bool.not_eq_true]
    exact ⟨htakes.time, hfree.2 htakes.free⟩
  · refine .inr ⟨htakes, ?_⟩
    rcases enqueue_cases (w.boosted boost now) (s.giveUp w.sessionId now) with
      ⟨htable, htime, hnone, hq⟩ | hq | ⟨e, -, hq⟩
    · have hpriority : IsStorable (w.boosted boost now).priority :=
        isStorable_of_enqueue (congrArg Prod.fst hq)
      exact absurd ⟨htable _ (List.mem_singleton_self _), htime, hfree.1 hnone,
        isStorable_boosted_iff.1 hpriority⟩ htakes
    · exact ⟨.ok false, by simp, hq⟩
    · exact ⟨.error e, by simp, hq⟩

/-- What becomes of work that is put back. -/
lemma requeue_cases (s : Store) (w : Work) (boost : Int) (now : Binary64) :
    (¬ s.Has [.workClaims, .sessions] ∧ ∃ e, requeue w boost now s = (.error e, s)) ∨
      (s.Has [.workClaims, .sessions] ∧ s.TakesBack w boost now ∧
        requeue w boost now s =
          (.ok true, (s.giveUp w.sessionId now).withWork (w.boosted boost now))) ∨
      (s.Has [.workClaims, .sessions] ∧ ¬ s.TakesBack w boost now ∧ ∃ r, r ≠ .ok true ∧
        requeue w boost now s = (r, s.giveUp w.sessionId now)) := by
  by_cases h : s.Has [.workClaims, .sessions]
  · have hstep : requeue w boost now s =
        enqueue (w.boosted boost now) (s.giveUp w.sessionId now) :=
      requeue_of_has h w boost now
    rw [hstep]
    rcases enqueue_boosted_giveUp s w boost now with
      ⟨htakes, hq⟩ | ⟨hrefuses, r, hr, hq⟩
    · exact .inr (.inl ⟨h, htakes, hq⟩)
    · exact .inr (.inr ⟨h, hrefuses, r, hr, hq⟩)
  · obtain ⟨e, he⟩ := changing_of_not_has h fun s =>
      ((), (s.unmark w.sessionId).updateSession w.sessionId (·.backToPending now))
    exact .inl ⟨h, e, Run.bind_of_error he⟩

/-- Work that the queue has taken is back as a whole. -/
lemma hasBack_withWork (h : s.TakesBack w boost now) :
    ((s.giveUp w.sessionId now).withWork (w.boosted boost now)).HasBack
      (w.boosted boost now) := by
  refine ⟨fun c hc => ?_, fun x hx hid => ?_, ?_⟩
  · have hkept : (c.sessionId != w.sessionId) = true := (List.mem_filter.1 hc).2
    exact bne_iff_ne.1 hkept
  · obtain ⟨y, -, rfl⟩ := List.mem_map.1 hx
    split
    · exact ⟨rfl, rfl, rfl⟩
    · rename_i hother
      rw [if_neg hother] at hid
      exact absurd (beq_iff_eq.2 hid) hother
  · have hnone : (s.queue.filter fun v => v.sessionId == w.sessionId) = [] := by
      rw [List.filter_eq_nil_iff]
      intro v hv hid
      exact h.free v hv (beq_iff_eq.1 hid)
    rw [withWork_queue, List.filter_append]
    change (s.queue.filter fun v => v.sessionId == w.sessionId) ++ _ = _
    rw [hnone]
    simp [Work.boosted]

/-- Putting work back is all or nothing exactly if the tables of the first transaction are not
there, the second one takes the work, or there is nothing to give up. -/
theorem putsBackWhole_iff (s : Store) (w : Work) (boost : Int) (now : Binary64) :
    s.PutsBackWhole w boost now ↔
      (s.Has [.workClaims, .sessions] →
        s.TakesBack w boost now ∨ s.IsGivenUp w.sessionId now) := by
  rcases requeue_cases s w boost now with
    ⟨hmissing, e, hrun⟩ | ⟨-, htakes, hrun⟩ | ⟨h, hrefuses, r, hr, hrun⟩
  · refine ⟨fun _ h => absurd h hmissing, fun _ => ⟨fun _ => ?_, fun hok => ?_⟩⟩
    · rw [hrun]
    · rw [hrun] at hok
      cases hok
  · refine ⟨fun _ _ => .inl htakes, fun _ => ⟨fun hok => ?_, fun _ => ?_⟩⟩
    · rw [hrun] at hok
      exact absurd rfl hok
    · rw [hrun]
      exact hasBack_withWork htakes
  · rw [← sameWork_giveUp_iff]
    constructor
    · intro hwhole _
      have hsame := hwhole.refused
      rw [hrun] at hsame
      exact .inr (hsame hr)
    · intro hcause
      have hsame := (hcause h).resolve_left hrefuses
      refine ⟨fun _ => ?_, fun hok => ?_⟩
      · rw [hrun]
        exact hsame
      · rw [hrun] at hok
        exact absurd hok hr

/-- Work of a session that a worker may put back. -/
def returned : Work :=
  { sessionId := "a", issueId := "i", issueIdentifier := "I-1", priority := 3, queuedAt := 0,
    workType := "development" }

/-- The session is claimed by a worker, and its work was queued once more. -/
def queuedAgain : Store :=
  { queue := [returned]
    claims := [⟨"a", "u", 1⟩]
    sessions := [
      { sessionId := "a", issueId := "i", status := .claimed, workerId := some "u",
        claimedAt := some 1, createdAt := 0, updatedAt := 1 }] }

/-- The work is refused, but the worker has lost its claim. -/
theorem not_putsBackWhole_queuedAgain : ¬ queuedAgain.PutsBackWhole returned 1 2 := by
  intro h
  rcases requeue_cases queuedAgain returned 1 2 with
    ⟨hmissing, -⟩ | ⟨-, htakes, -⟩ | ⟨-, -, r, hr, hrun⟩
  · exact hmissing (has_of_missing rfl _)
  · exact htakes.free returned (List.mem_singleton_self _) rfl
  · have hsame := h.refused
    rw [hrun] at hsame
    have hgiven := sameWork_giveUp_iff.1 (hsame hr)
    exact hgiven.claims ⟨"a", "u", 1⟩ (List.mem_singleton_self _) rfl

end Store

/-! ## The place of work that is put back -/

namespace Store

/-- Work that is put back stands at the end of the queue, so that its priority and its time have to
be better than those of other work. -/
lemma claimedBefore_boosted_iff {v : Work} {queue : List Work} {s : Store} {w : Work} {boost : Int}
    {now : Binary64} (hqueue : s.queue = queue ++ [w.boosted boost now]) (hv : v ∈ queue)
    (hnew : w.boosted boost now ∉ queue) (hpriority : 0 ≤ w.priority) (hboost : 1 ≤ boost)
    (hbehind : w.priority ≤ v.priority) :
    s.ClaimedBefore (w.boosted boost now) v ↔
      0 < w.priority ∨ 0 < v.priority ∨ now < v.queuedAt := by
  have hboosted : (w.boosted boost now).priority = max 0 (w.priority - boost) := rfl
  have htime : (w.boosted boost now).queuedAt = now := rfl
  have hplace : ¬ s.queue.idxOf (w.boosted boost now) < s.queue.idxOf v := by
    have hlast : s.queue.idxOf (w.boosted boost now) = queue.length := by
      rw [hqueue, List.idxOf_append_of_notMem hnew]
      simp
    have hearlier : s.queue.idxOf v < queue.length := by
      rw [hqueue, List.idxOf_append_of_mem hv]
      exact List.idxOf_lt_length_of_mem hv
    omega
  unfold ClaimedBefore
  rw [hboosted, htime]
  constructor
  · rintro (hlower | ⟨hsame, hearlier | ⟨-, -, hindex⟩⟩)
    · have : 0 < w.priority ∨ 0 < v.priority := by omega
      exact this.imp_right .inl
    · exact .inr (.inr hearlier)
    · exact absurd hindex hplace
  · rintro (hpositive | hpositive | hearlier)
    · exact .inl (by omega)
    · exact .inl (by omega)
    · by_cases hlower : max 0 (w.priority - boost) < v.priority
      · exact .inl hlower
      · exact .inr ⟨by omega, .inl hearlier⟩

end Store

namespace Operation

variable {ω : Type} {op : Operation ω} {w : World ω} {work v : Work}

/-- Work that has been handed out is not queued any more. -/
lemma hasQueued_after_of_handedOut (hwell : w.store.WellFormed)
    (h : work ∈ (op.report w).handedOut) :
    work.sessionId ∉ (op.after w).store.queue.map Work.sessionId := by
  obtain ⟨s, heffect, hleaves⟩ := op.hasEffect w hwell.tables
  rw [hleaves.store.queue]
  generalize op.report w = r at heffect h
  cases heffect with
  | handedOut works =>
    rw [(works.queue_eq hwell.queueIds).1]
    intro hmem
    obtain ⟨x, hx, hid⟩ := List.mem_map.1 hmem
    have hkept := (List.mem_filter.1 hx).2
    have hgiven : work.sessionId ∈ _ := List.mem_map_of_mem h
    rw [hid, hasSession_eq_true_iff.2 hgiven] at hkept
    cases hkept
  | _ => cases h

/-- An operation that queues work of other sessions or hands work out. -/
def IsOfOthers (sessionId : String) : Operation ω → Prop
  | .enqueue work => work.sessionId ≠ sessionId
  | .claim .. | .claimSession .. | .poll _ => True
  | _ => False

/-- What is reported is made of the result of a single step, or the step has failed. -/
lemma report_cases {α : Type} {x : Run (World ω) α} {f : α → Report}
    (h : op.run w = (x >>= fun a => pure (f a)) w) : op.report w = {} ∨ ∃ a, op.report w = f a := by
  unfold report
  rw [h]
  rcases hx : x w with ⟨e | a, w'⟩
  · rw [Run.bind_of_error hx]
    exact .inl rfl
  · rw [Run.bind_of_ok hx]
    exact .inr ⟨a, rfl⟩

lemma sessionId_ne_of_isOfOthers {sessionId : String} (hop : op.IsOfOthers sessionId)
    (h : v ∈ (op.report w).inserted) : v.sessionId ≠ sessionId := by
  have hnothing {α : Type} {x : Run (World ω) α} {f : α → List Work}
      (hrun : op.run w = (x >>= fun a => pure { handedOut := f a }) w) :
      v.sessionId ≠ sessionId := by
    rcases report_cases hrun with hreport | ⟨a, hreport⟩ <;> rw [hreport] at h <;> cases h
  cases op with
  | enqueue work =>
    have hrun : (enqueue work).run w =
        (World.onStore (Store.enqueue work) >>= fun queued =>
          pure { inserted := if queued then [work] else [] }) w := rfl
    rcases report_cases hrun with hreport | ⟨queued, hreport⟩
    · rw [hreport] at h
      cases h
    · rw [hreport] at h
      cases queued with
      | true => exact List.mem_singleton.1 h ▸ hop
      | false => cases h
  | claim worker projects => exact hnothing (f := Option.toList) rfl
  | claimSession claimed worker => exact hnothing (f := Option.toList) rfl
  | poll worker => exact hnothing (f := id) rfl
  | _ => exact hop.elim

/-- A claim hands out the first work that the worker may have. -/
lemma claim_of_first {projects : Option (List String)} {rest : List Work}
    (h : w.store.Has Store.workTables) (hfirst : w.store.eligible projects = v :: rest)
    (worker : String) :
    (claim worker projects).report w = { handedOut := [v] } ∧
      (claim worker projects).after w =
        { w with store := w.store.handOut v.sessionId worker w.clock } := by
  have hclaim := Store.claim_of_has h worker projects w.clock
  rw [hfirst] at hclaim
  have hrun : (claim worker projects).run w = (.ok { handedOut := [v] }, _) :=
    Run.bind_of_ok (World.onStoreNow_of_eq hclaim)
  rw [report, after, hrun]
  exact ⟨rfl, rfl⟩

lemma mem_ledger_inserted : .inserted v ∈ op.ledger w ↔ v ∈ (op.report w).inserted := by
  simp [ledger, Report.ledger]

end Operation

namespace World

variable {ω : Type} {w : World ω} {op : Operation ω} {work : Work} {boost : Int}

/-- All work that is queued in a run is of other sessions. -/
def QueuesOnlyOthers (w : World ω) (sessionId : String) (ops : List (Operation ω)) : Prop :=
  ∀ v, .inserted v ∈ w.ledger ops → v.sessionId ≠ sessionId

/-- Insertions of other sessions and hand-outs queue no work of the session. -/
lemma queuesOnlyOthers_of_forall {sessionId : String} {ops : List (Operation ω)}
    (h : ∀ op ∈ ops, op.IsOfOthers sessionId) : w.QueuesOnlyOthers sessionId ops := by
  induction ops generalizing w with
  | nil => exact fun v hv => nomatch hv
  | cons op ops ih =>
    obtain ⟨hop, hops⟩ := List.forall_mem_cons.1 h
    intro v hv
    rcases List.mem_append.1 hv with hv | hv
    · exact Operation.sessionId_ne_of_isOfOthers hop (Operation.mem_ledger_inserted.1 hv)
    · exact ih hops v hv

/-- A session that is not queued stays so as long as only work of others is queued. -/
lemma notMem_queue_runAll {sessionId : String} (hnow : w.clock.isNaN = false)
    (hwell : w.store.WellFormed) (hnew : sessionId ∉ w.store.queue.map Work.sessionId)
    {ops : List (Operation ω)} (hothers : w.QueuesOnlyOthers sessionId ops) :
    sessionId ∉ (w.runAll ops).store.queue.map Work.sessionId := by
  intro hmem
  obtain ⟨v, hv, rfl⟩ := List.mem_map.1 hmem
  rcases (ledger_replays hnow hwell ops).latest hv with ⟨hfirst, -⟩ | ⟨before, since, hledger, -⟩
  · exact hnew (List.mem_map_of_mem hfirst)
  · exact hothers v (by simp [hledger]) rfl

/-- Putting work back succeeds if the queue takes it. -/
lemma requeue_of_takesBack (hwell : w.store.WellFormed)
    (htakes : w.store.TakesBack work boost w.clock) :
    ((Operation.requeue work boost).report w).inserted = [work.boosted boost w.clock] ∧
      ((Operation.requeue work boost).after w).store.queue =
        w.store.queue ++ [work.boosted boost w.clock] := by
  have htables : w.store.Has [.workClaims, .sessions] :=
    hwell.tables.mono (by simp [Store.workTables])
  rcases w.store.requeue_cases work boost w.clock with
    ⟨hmissing, -⟩ | ⟨-, -, hstep⟩ | ⟨-, hrefuses, -⟩
  · exact absurd htables hmissing
  · have hrun : (Operation.requeue work boost).run w = (.ok _, _) :=
      Run.bind_of_ok (onStore_of_eq hstep)
    rw [Operation.report, Operation.after, hrun]
    exact ⟨rfl, rfl⟩
  · exact absurd htakes hrefuses

/-- Some work is handed out, in whatever way, and put back later.  In between, any operations may
run, on any work but that of its session.  Then it is queued again, and what came after it in the
order of claims when it was handed out still does, except for what has priority zero as well and was
not queued later than the clock says when the work is put back. -/
theorem claimedBefore_requeued_iff (hnow : w.clock.isNaN = false) (hwell : w.store.WellFormed)
    (hclaimed : work ∈ (op.report w).handedOut) (hpriority : 0 ≤ work.priority)
    (hstorable : Store.IsStorable work.priority) (hboost : 1 ≤ boost) {ops : List (Operation ω)}
    (hothers : (op.after w).QueuesOnlyOthers work.sessionId ops) {w' : World ω}
    (hw' : w' = (op.after w).runAll ops) :
    ((Operation.requeue work boost).report w').inserted = [work.boosted boost w'.clock] ∧
      ((Operation.requeue work boost).after w').store.queue =
        w'.store.queue ++ [work.boosted boost w'.clock] ∧
      ∀ v ∈ w'.store.queue, w.store.ClaimedBefore work v →
        (((Operation.requeue work boost).after w').store.ClaimedBefore
            (work.boosted boost w'.clock) v ↔
          0 < work.priority ∨ 0 < v.priority ∨ w'.clock < v.queuedAt) := by
  obtain ⟨hnow₁, hwell₁⟩ := op.wellFormed_after hnow hwell
  obtain ⟨hnow', hwell'⟩ := clock_and_wellFormed_runAll hnow₁ hwell₁ ops
  have hnew := notMem_queue_runAll hnow₁ hwell₁
    (Operation.hasQueued_after_of_handedOut hwell hclaimed) hothers
  rw [← hw'] at hnow' hwell' hnew
  have htakes : w'.store.TakesBack work boost w'.clock :=
    { table := hwell'.tables _ (by simp [Store.workTables])
      time := hnow'
      free := fun v hv hid => hnew (List.mem_map.2 ⟨v, hv, hid⟩)
      priority := by
        have hbelow : work.priority < twoPow 63 := hstorable.2
        omega }
  obtain ⟨hinserted, hqueue⟩ := requeue_of_takesBack hwell' htakes
  refine ⟨hinserted, hqueue, fun v hv hbehind => ?_⟩
  refine Store.claimedBefore_boosted_iff hqueue hv (fun hmem => ?_) hpriority hboost ?_
  · exact hnew (List.mem_map.2 ⟨_, hmem, rfl⟩)
  · rcases hbehind with hlower | ⟨hsame, -⟩
    · exact Int.le_of_lt hlower
    · exact Int.le_of_eq hsame

/-- Two pieces of work of one priority, and the clock shows a time after both were queued. -/
def stocked (priority : Int) : World Unit :=
  { fresh with
    clock := 9
    store := {
      queue := [Store.workQueuedAt "a" priority 1 none, Store.workQueuedAt "b" priority 2 none] } }

/-- The world after the first piece has been claimed. -/
def claimed (priority : Int) : World Unit := (Operation.claim "u" none).after (stocked priority)

lemma claim_stocked (priority : Int) :
    (Operation.claim "u" none).report (stocked priority) =
        { handedOut := [Store.workQueuedAt "a" priority 1 none] } ∧
      claimed priority =
        { stocked priority with store := (stocked priority).store.handOut "a" "u" 9 } := by
  have hearlier : (1 : Binary64).le 2 = true := by decide +kernel
  have hsorted : (stocked priority).store.eligible none = (stocked priority).store.queue :=
    List.mergeSort_of_pairwise (List.pairwise_pair.2 (by
      simp [Work.claimLe, Store.workQueuedAt, hearlier]))
  exact Operation.claim_of_first (Store.has_of_missing rfl _) hsorted "u"

/-- While the first piece is claimed, another one is queued and claimed. -/
def otherRun : List (Operation Unit) :=
  [.enqueue (Store.workQueuedAt "c" 0 3 none), .claimSession "c" "v"]

/-- The first piece is put back, and the second one, which came after it, still does. -/
theorem claimedBefore_requeued_iff_stocked :
    ((Operation.requeue (Store.workQueuedAt "a" 1 1 none) 1).after
      ((claimed 1).runAll otherRun)).store.ClaimedBefore
        (Store.workQueuedAt "a" 0 9 none) (Store.workQueuedAt "b" 1 2 none) := by
  have hwell : (stocked 1).store.WellFormed :=
    { tables := Store.has_of_missing rfl _
      queueIds := by decide
      sessionIds := List.nodup_nil
      queueTimes := by decide +kernel
      sessionTimes := by simp [stocked, fresh] }
  have hclaimed : Store.workQueuedAt "a" 1 1 none ∈
      ((Operation.claim "u" none).report (stocked 1)).handedOut := by
    rw [(claim_stocked 1).1]
    exact List.mem_singleton_self _
  have hothers : ((Operation.claim "u" none).after (stocked 1)).QueuesOnlyOthers "a" otherRun :=
    queuesOnlyOthers_of_forall (by simp [otherRun, Operation.IsOfOthers, Store.workQueuedAt])
  have hqueued : Store.workQueuedAt "b" 1 2 none ∈ ((claimed 1).runAll otherRun).store.queue := by
    rw [(claim_stocked 1).2]
    decide +kernel
  have hbehind : (stocked 1).store.ClaimedBefore (Store.workQueuedAt "a" 1 1 none)
      (Store.workQueuedAt "b" 1 2 none) := .inr ⟨rfl, .inl (by decide +kernel)⟩
  have hrow : (Store.workQueuedAt "a" 1 1 none).boosted 1 ((claimed 1).runAll otherRun).clock =
      Store.workQueuedAt "a" 0 9 none := by
    rw [(claim_stocked 1).2]
    decide +kernel
  have hlater : (claimed 1).runAll otherRun =
      ((Operation.claim "u" none).after (stocked 1)).runAll otherRun := rfl
  obtain ⟨-, -, hplaces⟩ := claimedBefore_requeued_iff (by decide +kernel) hwell hclaimed
    (by decide) (by decide) (Int.le_refl 1) hothers hlater
  rw [← hrow]
  exact (hplaces _ hqueued hbehind).2 (.inl (by decide))

/-- At the best priority, the first piece falls behind the second one when it is put back. -/
theorem not_claimedBefore_requeued_stocked :
    ((Operation.claim "u" none).report (stocked 0)).handedOut =
        [Store.workQueuedAt "a" 0 1 none] ∧
      (stocked 0).store.ClaimedBefore (Store.workQueuedAt "a" 0 1 none)
        (Store.workQueuedAt "b" 0 2 none) ∧
      ((Operation.requeue (Store.workQueuedAt "a" 0 1 none) 1).after (claimed 0)).store.queue =
        [Store.workQueuedAt "b" 0 2 none, Store.workQueuedAt "a" 0 9 none] ∧
      ¬ ((Operation.requeue (Store.workQueuedAt "a" 0 1 none) 1).after
        (claimed 0)).store.ClaimedBefore
          (Store.workQueuedAt "a" 0 9 none) (Store.workQueuedAt "b" 0 2 none) := by
  have hqueue : ((Operation.requeue (Store.workQueuedAt "a" 0 1 none) 1).after
      (claimed 0)).store.queue =
        [Store.workQueuedAt "b" 0 2 none, Store.workQueuedAt "a" 0 9 none] := by
    rw [(claim_stocked 0).2]
    decide +kernel
  refine ⟨?_, .inr ⟨rfl, .inl (by decide +kernel)⟩, hqueue, ?_⟩
  · rw [(claim_stocked 0).1]
  · unfold Store.ClaimedBefore
    rw [hqueue]
    decide +kernel

end World

end IssueDispatch
