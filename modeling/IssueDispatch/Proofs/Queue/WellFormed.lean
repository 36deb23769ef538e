import IssueDispatch.Proofs.Queue.Operation
import Mathlib.Data.List.Nodup
import Mathlib.Data.List.Perm.Basic

/-!
# Well-formed tables of work

A store is well-formed if its tables of work exist, no two entries of the queue and no two records
carry one session id, and every time by which work is ordered is a number.  A new store is
well-formed, and every operation keeps it so as long as the clock shows a number.

The records of sessions change by maps that keep the session id, the issue and the time at which the
work was queued: `Session.SameOrigin` is what such a map keeps.
-/

namespace IssueDispatch

/-- A record goes back to the same dispatch as another one. -/
structure Session.SameOrigin (x y : Session) : Prop where
  sessionId : y.sessionId = x.sessionId
  issueId : y.issueId = x.issueId
  queueTime : y.queueTime = x.queueTime

/-- The tables of work exist, identify work by its session, and hold times that are numbers. -/
structure Store.WellFormed (s : Store) : Prop where
  tables : s.Has workTables
  queueIds : (s.queue.map Work.sessionId).Nodup
  sessionIds : (s.sessions.map Session.sessionId).Nodup
  queueTimes : ∀ w ∈ s.queue, w.queuedAt.isNaN = false
  sessionTimes : ∀ x ∈ s.sessions, x.queueTime.isNaN = false

namespace Store

variable {s s' : Store} {now : Binary64}

lemma hasQueued_eq_false_iff {sessionId : String} :
    s.hasQueued sessionId = false ↔ sessionId ∉ s.queue.map Work.sessionId := by
  simp [hasQueued]

lemma findSession_eq_none_iff {sessionId : String} :
    s.findSession sessionId = none ↔ sessionId ∉ s.sessions.map Session.sessionId := by
  simp [findSession]

/-- A change of one record keeps the origin of every record. -/
lemma sameOrigin_updateSession {f : Session → Session} (hf : ∀ x, Session.SameOrigin x (f x))
    (sessionId : String) (x : Session) :
    x.SameOrigin (if x.sessionId == sessionId then f x else x) := by
  split
  · exact hf x
  · exact ⟨rfl, rfl, rfl⟩

/-- The unfinished sessions are some of the records, in another order. -/
lemma unfinished_perm (s : Store) : s.unfinished.Perm (s.sessions.filter (·.status.isUnfinished)) :=
  List.mergeSort_perm _ _

lemma mem_unfinished {x : Session} :
    x ∈ s.unfinished ↔ x ∈ s.sessions ∧ x.status.isUnfinished = true := by
  rw [s.unfinished_perm.mem_iff, List.mem_filter]

namespace WellFormed

/-- Only the tables of work matter. -/
lemma of_sameWork (h : s.WellFormed) (hsame : s.SameWork s') : s'.WellFormed where
  tables := h.tables.of_missing_eq hsame.missing
  queueIds := hsame.queue ▸ h.queueIds
  sessionIds := hsame.sessions ▸ h.sessionIds
  queueTimes := hsame.queue ▸ h.queueTimes
  sessionTimes := hsame.sessions ▸ h.sessionTimes

lemma new : ({} : Store).WellFormed where
  tables := by simp [Has]
  queueIds := by simp
  sessionIds := by simp
  queueTimes := by simp
  sessionTimes := by simp

/-- Markers do not matter. -/
lemma withClaims (h : s.WellFormed) (claims : List Claim) : { s with claims }.WellFormed :=
  ⟨h.tables, h.queueIds, h.sessionIds, h.queueTimes, h.sessionTimes⟩

/-- Entries may leave the queue. -/
lemma subqueue (h : s.WellFormed) {queue : List Work} (hsub : queue.Sublist s.queue) :
    { s with queue }.WellFormed where
  tables := h.tables
  queueIds := h.queueIds.sublist (hsub.map Work.sessionId)
  sessionIds := h.sessionIds
  queueTimes := fun w hw => h.queueTimes w (hsub.subset hw)
  sessionTimes := h.sessionTimes

/-- Records may go. -/
lemma subsessions (h : s.WellFormed) {sessions : List Session}
    (hsub : sessions.Sublist s.sessions) : { s with sessions }.WellFormed where
  tables := h.tables
  queueIds := h.queueIds
  sessionIds := h.sessionIds.sublist (hsub.map Session.sessionId)
  queueTimes := h.queueTimes
  sessionTimes := fun x hx => h.sessionTimes x (hsub.subset hx)

/-- Records may change as long as they keep their origin. -/
lemma mapSessions (h : s.WellFormed) {g : Session → Session}
    (hg : ∀ x, Session.SameOrigin x (g x)) :
    { s with sessions := s.sessions.map g }.WellFormed where
  tables := h.tables
  queueIds := h.queueIds
  sessionIds := by
    have hids : Session.sessionId ∘ g = Session.sessionId := funext fun x => (hg x).sessionId
    rw [List.map_map, hids]
    exact h.sessionIds
  queueTimes := h.queueTimes
  sessionTimes := by
    intro y hy
    obtain ⟨x, hx, rfl⟩ := List.mem_map.1 hy
    rw [(hg x).queueTime]
    exact h.sessionTimes x hx

/-- Work of a session that is not queued may be. -/
lemma withWork (h : s.WellFormed) {w : Work} (hfree : s.hasQueued w.sessionId = false)
    (htime : w.queuedAt.isNaN = false) : (s.withWork w).WellFormed where
  tables := h.tables
  queueIds := by
    rw [withWork_queue, List.map_append, List.map_singleton, ← List.concat_eq_append]
    exact h.queueIds.concat (hasQueued_eq_false_iff.1 hfree)
  sessionIds := h.sessionIds
  queueTimes := by
    intro x hx
    rw [withWork_queue, List.mem_append, List.mem_singleton] at hx
    rcases hx with hx | rfl
    · exact h.queueTimes x hx
    · exact htime
  sessionTimes := h.sessionTimes

/-- A session whose id is new may be recorded. -/
lemma withSession (h : s.WellFormed) {x : Session} (hnew : s.findSession x.sessionId = none)
    (htime : x.queueTime.isNaN = false) : (s.withSession x).WellFormed where
  tables := h.tables
  queueIds := h.queueIds
  sessionIds := by
    rw [withSession_sessions, List.map_append, List.map_singleton, ← List.concat_eq_append]
    exact h.sessionIds.concat (findSession_eq_none_iff.1 hnew)
  queueTimes := h.queueTimes
  sessionTimes := by
    intro y hy
    rw [withSession_sessions, List.mem_append, List.mem_singleton] at hy
    rcases hy with hy | rfl
    · exact h.sessionTimes y hy
    · exact htime

end WellFormed

/-! ## Changes of records -/

lemma sameOrigin_claimBy (worker : String) (now : Binary64) (x : Session) :
    x.SameOrigin (x.claimBy worker now) := ⟨rfl, rfl, rfl⟩

lemma sameOrigin_backToPending (now : Binary64) (x : Session) :
    x.SameOrigin (x.backToPending now) := ⟨rfl, rfl, rfl⟩

namespace WellFormed

lemma handOut (h : s.WellFormed) (sessionId worker : String) (now : Binary64) :
    (s.handOut sessionId worker now).WellFormed := by
  have hqueue := h.subqueue (List.filter_sublist (p := fun w => w.sessionId != sessionId))
  have hsessions := hqueue.mapSessions
    (sameOrigin_updateSession (sameOrigin_claimBy worker now) sessionId)
  exact hsessions.withClaims _

lemma handsOut {worker : String} {ws : List Work} (h : s.WellFormed)
    (hgiven : s.HandsOut worker now ws s') : s'.WellFormed := by
  induction hgiven with
  | nil => exact h
  | cons _ _ ih => exact ih (h.handOut _ _ _)

lemma giveUp (h : s.WellFormed) (sessionId : String) (now : Binary64) :
    (s.giveUp sessionId now).WellFormed :=
  (h.withClaims _).mapSessions (sameOrigin_updateSession (sameOrigin_backToPending now) sessionId)

lemma rebuilt (h : s.WellFormed) (now : Binary64) : (s.rebuilt now).WellFormed := by
  have hsessions := h.mapSessions (g := fun x =>
    if x.status.isUnfinished then { x.backToPending now with providerSessionId := none } else x)
    fun x => by
      split
      · exact ⟨rfl, rfl, rfl⟩
      · exact ⟨rfl, rfl, rfl⟩
  refine ⟨h.tables, ?_, hsessions.sessionIds, ?_, hsessions.sessionTimes⟩
  · have hids : (s.unfinished.map Session.toWork).map Work.sessionId =
        s.unfinished.map Session.sessionId := by
      rw [List.map_map]
      rfl
    rw [Store.rebuilt, hids, (s.unfinished_perm.map _).nodup_iff]
    exact h.sessionIds.sublist (List.filter_sublist.map _)
  · intro w hw
    obtain ⟨x, hx, rfl⟩ := List.mem_map.1 hw
    exact h.sessionTimes x (mem_unfinished.1 hx).1

end WellFormed

end Store

/-! ## Every operation -/

namespace Operation

variable {ω : Type}

/-- The work of a record that a dispatch makes was queued when the clock said so. -/
lemma isNaN_queueTime_placedSession (issue : Issue) (workType sessionId : String) (priority : Nat)
    {now : Binary64} (hnow : now.isNaN = false) :
    (StoreBacked.placedSession issue workType sessionId priority now).queueTime.isNaN = false := by
  have hkept : Store.kept now = some now := by rw [Store.kept, hnow]; rfl
  simp only [Session.queueTime, StoreBacked.placedSession, StoreBacked.newSession,
    Store.NewSession.toSession, Option.bind_some, hkept]
  split <;> exact hnow

/-- Every effect keeps a store well-formed. -/
lemma Effect.wellFormed {now : Binary64} {s s' : Store} {op : Operation ω} {r : Report}
    (heffect : Effect now s op r s') (hnow : now.isNaN = false) (h : s.WellFormed) :
    s'.WellFormed := by
  cases heffect with
  | refused => exact h
  | queued time free => exact h.withWork free time
  | @placed _ _ issue workType sessionId priority prompt idle new free =>
    have htime := isNaN_queueTime_placedSession issue workType sessionId priority hnow
    exact Store.WellFormed.withWork (h.withSession new htime) free hnow
  | @failed _ _ issue workType sessionId priority error new =>
    have htime := isNaN_queueTime_placedSession issue workType sessionId priority hnow
    exact h.withSession new htime
  | handedOut works => exact h.handsOut works
  | lost works => exact h.handsOut works
  | putBack time free => exact (h.giveUp _ now).withWork free time
  | givenUp => exact h.giveUp _ now
  | removed sessionId => exact h.subqueue List.filter_sublist
  | removedMatching part =>
    exact ((h.subqueue List.filter_sublist).withClaims _).subsessions List.filter_sublist
  | emptied => exact h.subqueue (List.nil_sublist _)
  | rebuilt => exact h.rebuilt now
  | unmarked => exact h.withClaims _
  | unmarkedAll => exact h.withClaims _
  | moved =>
    refine h.mapSessions (Store.sameOrigin_updateSession ?_ _)
    intro x
    exact ⟨rfl, rfl, rfl⟩

/-- Every operation keeps the store well-formed and the clock a number. -/
lemma wellFormed_after (op : Operation ω) {w : World ω} (hnow : w.clock.isNaN = false)
    (h : w.store.WellFormed) :
    (op.after w).clock.isNaN = false ∧ (op.after w).store.WellFormed := by
  obtain ⟨s, heffect, hleaves⟩ := op.hasEffect w h.tables
  exact ⟨hleaves.clock hnow, (heffect.wellFormed hnow h).of_sameWork hleaves.store⟩

end Operation

/-- Every run keeps the store well-formed and the clock a number. -/
lemma World.clock_and_wellFormed_runAll {ω : Type} {w : World ω} (hnow : w.clock.isNaN = false)
    (h : w.store.WellFormed) (ops : List (Operation ω)) :
    (w.runAll ops).clock.isNaN = false ∧ (w.runAll ops).store.WellFormed := by
  induction ops generalizing w with
  | nil => exact ⟨hnow, h⟩
  | cons op ops ih =>
    have hafter := op.wellFormed_after hnow h
    exact ih hafter.1 hafter.2

end IssueDispatch
