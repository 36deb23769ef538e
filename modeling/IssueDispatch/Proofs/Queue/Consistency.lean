import IssueDispatch.Proofs.Queue.WellFormed
import IssueDispatch.Proofs.Standard

/-!
# Consistency of the queue with the records of sessions

Three tables speak about the same sessions: the queue, the markers of claims, and the records.
`Store.Consistent` says how they agree.  It is not preserved by itself; `Store.Coherent` is the
invariant that carries it, in which every row points at a record: a queued entry at a pending record
of the same issue, a marker at a record that is not pending.

The store checks little of what it is told.  An operation is orderly if its caller plays by the
rules of the trade: work is put back only while its session is under way, and a status is changed
only from one under way to a later one.  Work that is put back has to fit the session that is under
way: it is about the same issue, and its priority fits into the store.  Without either of the two
the tables come apart, since an identifier may be used again once everything about it is removed,
and a claim is given up before the work is queued.
-/

namespace IssueDispatch

/-- Whether an agent has the session in hand. -/
def SessionStatus.isUnderway : SessionStatus → Bool
  | claimed | running | finalizing => true
  | _ => false

/-- The queue, the markers and the records of sessions agree. -/
structure Store.Consistent (s : Store) : Prop where
  /-- An issue has at most one active session. -/
  oneActive : ∀ issueId,
    (s.sessions.filter fun x => x.issueId == issueId && x.status.isActive).length ≤ 1
  /-- A session is pending exactly if one entry of the queue carries its id, for the same issue. -/
  pending_iff : ∀ x ∈ s.sessions, x.status = .pending ↔
    ∃ w, (s.queue.filter fun w => w.sessionId == x.sessionId) = [w] ∧ w.issueId = x.issueId
  /-- Every entry of the queue has a pending record. -/
  recorded : ∀ w ∈ s.queue, ∃ x ∈ s.sessions,
    x.sessionId = w.sessionId ∧ x.issueId = w.issueId ∧ x.status = .pending
  /-- No session is both queued and claimed. -/
  unmarked : ∀ w ∈ s.queue, ∀ c ∈ s.claims, c.sessionId ≠ w.sessionId

/-- The issues of the active ones among some sessions. -/
def busyIssues (xs : List Session) : List String :=
  (xs.filter fun x => x.status.isActive).map Session.issueId

/-- Every row of the tables of work points at a record that agrees with it. -/
structure Store.Coherent (s : Store) : Prop extends s.WellFormed where
  issues : (busyIssues s.sessions).Nodup
  queued : ∀ x ∈ s.sessions, x.status = .pending → ∃ w ∈ s.queue, w.sessionId = x.sessionId
  recorded : ∀ w ∈ s.queue, ∃ x ∈ s.sessions,
    x.sessionId = w.sessionId ∧ x.issueId = w.issueId ∧ x.status = .pending
  marked : ∀ c ∈ s.claims, ∃ x ∈ s.sessions, x.sessionId = c.sessionId ∧ x.status ≠ .pending

@[simp] lemma busyIssues_nil : busyIssues [] = [] := rfl

@[simp] lemma busyIssues_append (xs ys : List Session) :
    busyIssues (xs ++ ys) = busyIssues xs ++ busyIssues ys := by
  simp [busyIssues]

lemma busyIssues_cons_of_active {x : Session} (hx : x.status.isActive = true)
    (xs : List Session) : busyIssues (x :: xs) = x.issueId :: busyIssues xs := by
  simp [busyIssues, hx]

lemma busyIssues_cons_of_not_active {x : Session} (hx : ¬ x.status.isActive = true)
    (xs : List Session) : busyIssues (x :: xs) = busyIssues xs := by
  simp [busyIssues, hx]

/-- Records that change, but neither move to another issue nor become active, make no issue busy. -/
lemma busyIssues_map_sublist {xs : List Session} {g : Session → Session}
    (hissue : ∀ x ∈ xs, (g x).issueId = x.issueId)
    (hactive : ∀ x ∈ xs, (g x).status.isActive = true → x.status.isActive = true) :
    (busyIssues (xs.map g)).Sublist (busyIssues xs) := by
  induction xs with
  | nil => exact .slnil
  | cons x xs ih =>
    have hrest := ih (fun y hy => hissue y (by simp [hy])) (fun y hy => hactive y (by simp [hy]))
    rw [List.map_cons]
    by_cases hg : (g x).status.isActive = true
    · rw [busyIssues_cons_of_active hg, busyIssues_cons_of_active (hactive x (by simp) hg),
        hissue x (by simp)]
      exact hrest.cons_cons _
    · rw [busyIssues_cons_of_not_active hg]
      by_cases hx : x.status.isActive = true
      · rw [busyIssues_cons_of_active hx]
        exact hrest.cons _
      · rwa [busyIssues_cons_of_not_active hx]

namespace Store

variable {s : Store}

lemma isBusy_eq_false_iff {issueId : String} :
    s.isBusy issueId = false ↔ issueId ∉ busyIssues s.sessions := by
  simp only [isBusy, busyIssues, List.any_eq_false, Bool.and_eq_true, beq_iff_eq, not_and,
    List.mem_map, List.mem_filter, not_exists, and_imp]
  exact ⟨fun h x hx hactive hissue => h x hx hissue hactive,
    fun h x hx hissue hactive => h x hx hactive hissue⟩

namespace WellFormed

/-- A record is known by its session id. -/
lemma eq_of_sessionId (h : s.WellFormed) {x y : Session} (hx : x ∈ s.sessions)
    (hy : y ∈ s.sessions) (hid : x.sessionId = y.sessionId) : x = y :=
  List.inj_on_of_nodup_map h.sessionIds hx hy hid

/-- An entry of the queue is the only one of its session. -/
lemma filter_queue_eq (h : s.WellFormed) {w : Work} (hw : w ∈ s.queue) :
    (s.queue.filter fun x => x.sessionId == w.sessionId) = [w] := by
  have hnodup : (s.queue.filter fun x => x.sessionId == w.sessionId).Nodup :=
    (List.Nodup.of_map _ h.queueIds).filter _
  refine List.perm_singleton.1 ((List.perm_ext_iff_of_nodup hnodup (List.nodup_singleton w)).2
    fun x => ?_)
  simp only [List.mem_filter, beq_iff_eq, List.mem_singleton]
  constructor
  · rintro ⟨hx, hid⟩
    exact List.inj_on_of_nodup_map h.queueIds hx hw hid
  · rintro rfl
    exact ⟨hw, rfl⟩

end WellFormed

/-- The invariant makes the tables consistent. -/
lemma Coherent.consistent (h : s.Coherent) : s.Consistent where
  oneActive issueId := by
    have hcount := List.nodup_iff_count_le_one.1 h.issues issueId
    rw [busyIssues, List.count_eq_countP, List.countP_map, List.countP_eq_length_filter,
      List.filter_filter] at hcount
    exact hcount
  pending_iff x hx := by
    constructor
    · intro hpending
      obtain ⟨w, hw, hid⟩ := h.queued x hx hpending
      obtain ⟨y, hy, hyid, hissue, -⟩ := h.recorded w hw
      obtain rfl := h.eq_of_sessionId hy hx (hyid.trans hid)
      exact ⟨w, hid ▸ h.filter_queue_eq hw, hissue.symm⟩
    · rintro ⟨w, hw, -⟩
      have hmem : w ∈ s.queue.filter fun w => w.sessionId == x.sessionId := by simp [hw]
      simp only [List.mem_filter, beq_iff_eq] at hmem
      obtain ⟨y, hy, hyid, -, hpending⟩ := h.recorded w hmem.1
      obtain rfl := h.eq_of_sessionId hy hx (hyid.trans hmem.2)
      exact hpending
  recorded := h.recorded
  unmarked w hw c hc hid := by
    obtain ⟨x, hx, hxid, -, hpending⟩ := h.recorded w hw
    obtain ⟨y, hy, hyid, hother⟩ := h.marked c hc
    obtain rfl := h.eq_of_sessionId hx hy (hxid.trans (hid.symm.trans hyid.symm))
    exact hother hpending

/-! ## What keeps the invariant -/

namespace Coherent

variable {s' : Store} {now : Binary64}

/-- Only the tables of work matter. -/
lemma of_sameWork (h : s.Coherent) (hsame : s.SameWork s') : s'.Coherent where
  toWellFormed := h.toWellFormed.of_sameWork hsame
  issues := hsame.sessions ▸ h.issues
  queued := by
    rw [hsame.sessions, hsame.queue]
    exact h.queued
  recorded := by
    rw [hsame.sessions, hsame.queue]
    exact h.recorded
  marked := by
    rw [hsame.sessions, hsame.claims]
    exact h.marked

lemma new : ({} : Store).Coherent where
  toWellFormed := .new
  issues := by simp
  queued := by simp
  recorded := by simp
  marked := by simp

/-- Markers may go. -/
lemma subclaims (h : s.Coherent) {claims : List Claim} (hsub : claims ⊆ s.claims) :
    { s with claims }.Coherent where
  toWellFormed := h.withClaims claims
  issues := h.issues
  queued := h.queued
  recorded := h.recorded
  marked c hc := h.marked c (hsub hc)

/-- The record of a queued session is not under way. -/
lemma isUnderway_eq_false (h : s.Coherent) {w : Work} (hw : w ∈ s.queue) {x : Session}
    (hx : x ∈ s.sessions) (hid : x.sessionId = w.sessionId) : x.status.isUnderway = false := by
  obtain ⟨y, hy, hyid, -, hpending⟩ := h.recorded w hw
  obtain rfl := h.eq_of_sessionId hy hx (hyid.trans hid.symm)
  rw [hpending]
  rfl

/-- A pending session with its work is placed for an issue that is idle. -/
lemma placed (h : s.Coherent) {x : Session} {w : Work}
    (hwell : ((s.withSession x).withWork w).WellFormed) (hid : x.sessionId = w.sessionId)
    (hissue : x.issueId = w.issueId) (hpending : x.status = .pending)
    (hidle : s.isBusy x.issueId = false) : ((s.withSession x).withWork w).Coherent where
  toWellFormed := hwell
  issues := by
    have hactive : x.status.isActive = true := by rw [hpending]; rfl
    change (busyIssues (s.sessions ++ [x])).Nodup
    rw [busyIssues_append, busyIssues_cons_of_active hactive, busyIssues_nil,
      ← List.concat_eq_append]
    exact h.issues.concat (isBusy_eq_false_iff.1 hidle)
  queued y hy hypending := by
    rcases List.mem_append.1 hy with hy | hy
    · obtain ⟨v, hv, hvid⟩ := h.queued y hy hypending
      exact ⟨v, by simp [withSession, hv], hvid⟩
    · obtain rfl := List.mem_singleton.1 hy
      exact ⟨w, by simp, hid.symm⟩
  recorded v hv := by
    rcases List.mem_append.1 hv with hv | hv
    · obtain ⟨y, hy, hrest⟩ := h.recorded v hv
      exact ⟨y, List.mem_append_left _ hy, hrest⟩
    · obtain rfl := List.mem_singleton.1 hv
      exact ⟨x, by simp [Store.withWork], hid, hissue, hpending⟩
  marked c hc := by
    obtain ⟨y, hy, hrest⟩ := h.marked c hc
    exact ⟨y, List.mem_append_left _ hy, hrest⟩

/-- A session that has failed may be recorded. -/
lemma withSession (h : s.Coherent) {x : Session} (hwell : (s.withSession x).WellFormed)
    (hfailed : x.status = .failed) : (s.withSession x).Coherent where
  toWellFormed := hwell
  issues := by
    have hidle : ¬ x.status.isActive = true := by rw [hfailed]; decide
    rw [withSession_sessions, busyIssues_append, busyIssues_cons_of_not_active hidle]
    simpa [busyIssues] using h.issues
  queued y hy hypending := by
    rcases List.mem_append.1 hy with hy | hy
    · exact h.queued y hy hypending
    · obtain rfl := List.mem_singleton.1 hy
      rw [hfailed] at hypending
      exact nomatch hypending
  recorded v hv := by
    obtain ⟨y, hy, hrest⟩ := h.recorded v hv
    exact ⟨y, List.mem_append_left _ hy, hrest⟩
  marked c hc := by
    obtain ⟨y, hy, hrest⟩ := h.marked c hc
    exact ⟨y, List.mem_append_left _ hy, hrest⟩

/-- Records that change in place keep the invariant if the queue and the markers follow. -/
lemma of_map (h : s.Coherent) {g : Session → Session} (hwell : s'.WellFormed)
    (hsessions : s'.sessions = s.sessions.map g) (hg : ∀ x, Session.SameOrigin x (g x))
    (hactive : ∀ x ∈ s.sessions, (g x).status.isActive = true → x.status.isActive = true)
    (hqueued : ∀ x ∈ s.sessions, (g x).status = .pending →
      ∃ w ∈ s'.queue, w.sessionId = x.sessionId)
    (hrecorded : ∀ w ∈ s'.queue, ∃ x ∈ s.sessions,
      x.sessionId = w.sessionId ∧ x.issueId = w.issueId ∧ (g x).status = .pending)
    (hmarked : ∀ c ∈ s'.claims, ∃ x ∈ s.sessions,
      x.sessionId = c.sessionId ∧ (g x).status ≠ .pending) : s'.Coherent where
  toWellFormed := hwell
  issues := by
    rw [hsessions]
    exact h.issues.sublist (busyIssues_map_sublist (fun x _ => (hg x).issueId) hactive)
  queued := by
    rw [hsessions, List.forall_mem_map]
    intro x hx hpending
    rw [(hg x).sessionId]
    exact hqueued x hx hpending
  recorded w hw := by
    obtain ⟨x, hx, hid, hissue, hpending⟩ := hrecorded w hw
    rw [hsessions]
    exact ⟨g x, List.mem_map_of_mem hx, (hg x).sessionId.trans hid, (hg x).issueId.trans hissue,
      hpending⟩
  marked c hc := by
    obtain ⟨x, hx, hid, hother⟩ := hmarked c hc
    rw [hsessions]
    exact ⟨g x, List.mem_map_of_mem hx, (hg x).sessionId.trans hid, hother⟩

/-- Work that is handed out leaves the queue as its session becomes claimed. -/
lemma handOut (h : s.Coherent) {w : Work} (hw : w ∈ s.queue) (worker : String) (now : Binary64) :
    (s.handOut w.sessionId worker now).Coherent := by
  refine h.of_map (h.toWellFormed.handOut _ worker now) rfl
    (sameOrigin_updateSession (sameOrigin_claimBy worker now) w.sessionId) ?_ ?_ ?_ ?_
  · intro x hx hactive
    by_cases hid : x.sessionId = w.sessionId
    · obtain ⟨y, hy, hyid, -, hpending⟩ := h.recorded w hw
      obtain rfl := h.eq_of_sessionId hy hx (hyid.trans hid.symm)
      rw [hpending]
      rfl
    · rwa [if_neg (by simpa using hid)] at hactive
  · intro x hx hpending
    by_cases hid : x.sessionId = w.sessionId
    · rw [if_pos (by simpa using hid)] at hpending
      exact nomatch hpending
    · rw [if_neg (by simpa using hid)] at hpending
      obtain ⟨v, hv, hvid⟩ := h.queued x hx hpending
      exact ⟨v, List.mem_filter.2 ⟨hv, by simpa [hvid] using hid⟩, hvid⟩
  · intro v hv
    obtain ⟨hv, hvid⟩ := List.mem_filter.1 hv
    obtain ⟨x, hx, hid, hissue, hpending⟩ := h.recorded v hv
    refine ⟨x, hx, hid, hissue, ?_⟩
    rwa [if_neg (by simpa [hid] using hvid)]
  · intro c hc
    rcases List.mem_append.1 hc with hc | hc
    · obtain ⟨hc, hcid⟩ := List.mem_filter.1 hc
      obtain ⟨x, hx, hid, hother⟩ := h.marked c hc
      refine ⟨x, hx, hid, ?_⟩
      rwa [if_neg (by simpa [hid] using hcid)]
    · obtain rfl := List.mem_singleton.1 hc
      obtain ⟨x, hx, hid, -, -⟩ := h.recorded w hw
      refine ⟨x, hx, hid, ?_⟩
      rw [if_pos (by simpa using hid)]
      exact nofun

lemma handsOut {worker : String} {ws : List Work} (h : s.Coherent)
    (hgiven : s.HandsOut worker now ws s') : s'.Coherent := by
  induction hgiven with
  | nil => exact h
  | cons mem _ ih => exact ih (h.handOut mem _ _)

/-- Work of a session that is under way may be put back if it is about the issue on record. -/
lemma putBack (h : s.Coherent) {work : Work} {boost : Int} {x : Session} (hx : x ∈ s.sessions)
    (hid : x.sessionId = work.sessionId) (hissue : x.issueId = work.issueId)
    (hunderway : x.status.isUnderway = true)
    (hwell : ((s.giveUp work.sessionId now).withWork (work.boosted boost now)).WellFormed) :
    ((s.giveUp work.sessionId now).withWork (work.boosted boost now)).Coherent := by
  have honly {y : Session} (hy : y ∈ s.sessions) (hyid : y.sessionId = work.sessionId) : y = x :=
    h.eq_of_sessionId hy hx (hyid.trans hid.symm)
  refine h.of_map hwell rfl
    (sameOrigin_updateSession (sameOrigin_backToPending now) work.sessionId) ?_ ?_ ?_ ?_
  · intro y hy hactive
    by_cases hyid : y.sessionId = work.sessionId
    · rw [honly hy hyid]
      revert hunderway
      cases x.status <;> simp [SessionStatus.isUnderway, SessionStatus.isActive]
    · rwa [if_neg (by simpa using hyid)] at hactive
  · intro y hy hpending
    by_cases hyid : y.sessionId = work.sessionId
    · exact ⟨work.boosted boost now, by simp [Store.withWork], hyid.symm⟩
    · rw [if_neg (by simpa using hyid)] at hpending
      obtain ⟨v, hv, hvid⟩ := h.queued y hy hpending
      exact ⟨v, List.mem_append_left _ hv, hvid⟩
  · intro v hv
    rcases List.mem_append.1 hv with hv | hv
    · obtain ⟨y, hy, hyid, hyissue, hpending⟩ := h.recorded v hv
      refine ⟨y, hy, hyid, hyissue, ?_⟩
      split
      · rfl
      · exact hpending
    · obtain rfl := List.mem_singleton.1 hv
      refine ⟨x, hx, hid, hissue, ?_⟩
      rw [if_pos (by simpa using hid)]
      rfl
  · intro c hc
    obtain ⟨hc, hcid⟩ := List.mem_filter.1 hc
    obtain ⟨y, hy, hyid, hother⟩ := h.marked c hc
    refine ⟨y, hy, hyid, ?_⟩
    rwa [if_neg (by simpa [hyid] using hcid)]

/-- A session under way may move on to a later status. -/
lemma moved (h : s.Coherent) {x : Session} (hx : x ∈ s.sessions)
    (hunderway : x.status.isUnderway = true) {f : Session → Session}
    (hf : ∀ y, Session.SameOrigin y (f y)) (hlater : ∀ y, (f y).status ≠ .pending)
    (hwell : (s.updateSession x.sessionId f).WellFormed) :
    (s.updateSession x.sessionId f).Coherent := by
  have honly {y : Session} (hy : y ∈ s.sessions) (hyid : y.sessionId = x.sessionId) : y = x :=
    h.eq_of_sessionId hy hx hyid
  refine h.of_map hwell rfl (sameOrigin_updateSession hf x.sessionId) ?_ ?_ ?_ ?_
  · intro y hy hactive
    by_cases hyid : y.sessionId = x.sessionId
    · rw [honly hy hyid]
      revert hunderway
      cases x.status <;> simp [SessionStatus.isUnderway, SessionStatus.isActive]
    · rwa [if_neg (by simpa using hyid)] at hactive
  · intro y hy hpending
    by_cases hyid : y.sessionId = x.sessionId
    · rw [if_pos (by simpa using hyid)] at hpending
      exact absurd hpending (hlater y)
    · rw [if_neg (by simpa using hyid)] at hpending
      exact h.queued y hy hpending
  · intro v hv
    obtain ⟨y, hy, hyid, hyissue, hpending⟩ := h.recorded v hv
    refine ⟨y, hy, hyid, hyissue, ?_⟩
    rw [if_neg]
    · exact hpending
    · simp only [beq_iff_eq]
      intro hsame
      have hover := h.isUnderway_eq_false hv hx (hsame.symm.trans hyid)
      simp [hunderway] at hover
  · intro c hc
    obtain ⟨y, hy, hyid, hother⟩ := h.marked c hc
    refine ⟨y, hy, hyid, ?_⟩
    split
    · exact hlater y
    · exact hother

/-- When the queue is rebuilt, every unfinished session is pending and has its work queued. -/
lemma rebuilt (h : s.Coherent) (now : Binary64) : (s.rebuilt now).Coherent := by
  refine of_map h (h.toWellFormed.rebuilt now) rfl ?_ ?_ ?_ ?_ ?_
  · intro x
    split
    · exact ⟨rfl, rfl, rfl⟩
    · exact ⟨rfl, rfl, rfl⟩
  · intro x _ hactive
    split at hactive
    · rename_i hunfinished
      exact SessionStatus.isActive_of_isUnfinished hunfinished
    · exact hactive
  · intro x hx hpending
    have hunfinished : x.status.isUnfinished = true := by
      split at hpending
      · assumption
      · rw [hpending]
        rfl
    exact ⟨x.toWork, List.mem_map_of_mem (mem_unfinished.2 ⟨hx, hunfinished⟩), rfl⟩
  · intro w hw
    obtain ⟨x, hx, rfl⟩ := List.mem_map.1 hw
    obtain ⟨hx, hunfinished⟩ := mem_unfinished.1 hx
    refine ⟨x, hx, rfl, rfl, ?_⟩
    rw [if_pos hunfinished]
    rfl
  · intro c hc
    exact nomatch hc

/-- What matches a part goes from all three tables at once. -/
lemma withoutMatching (h : s.Coherent) {part : String}
    (hwell : (s.withoutMatching part).WellFormed) : (s.withoutMatching part).Coherent where
  toWellFormed := hwell
  issues := h.issues.sublist ((List.filter_sublist.filter _).map _)
  queued x hx hpending := by
    obtain ⟨hx, hkept⟩ := List.mem_filter.1 hx
    obtain ⟨w, hw, hid⟩ := h.queued x hx hpending
    exact ⟨w, List.mem_filter.2 ⟨hw, by rwa [hid]⟩, hid⟩
  recorded w hw := by
    obtain ⟨hw, hkept⟩ := List.mem_filter.1 hw
    obtain ⟨x, hx, hid, hrest⟩ := h.recorded w hw
    exact ⟨x, List.mem_filter.2 ⟨hx, by rwa [hid]⟩, hid, hrest⟩
  marked c hc := by
    obtain ⟨hc, hkept⟩ := List.mem_filter.1 hc
    obtain ⟨x, hx, hid, hother⟩ := h.marked c hc
    exact ⟨x, List.mem_filter.2 ⟨hx, by rwa [hid]⟩, hid, hother⟩

end Coherent

end Store

/-! ## Orderly runs -/

namespace Operation

variable {ω : Type}

/-- Whether an operation keeps to the rules.  Work may be put back, at an unchanged or better
priority, for a session under way that it fits; a session under way may move on to a later status.
Work does not get into the queue or out of it by hand. -/
def IsOrderly (fits : Session → Work → Prop) (s : Store) : Operation ω → Prop
  | requeue work boost => 0 ≤ boost ∧ ∃ x ∈ s.sessions,
      x.sessionId = work.sessionId ∧ x.status.isUnderway = true ∧ fits x work
  | updateStatus sessionId status _ _ =>
      status ∈ [.running, .finalizing, .completed, .failed, .stopped] ∧
        ∃ x ∈ s.sessions, x.sessionId = sessionId ∧ x.status.isUnderway = true
  | enqueue _ | remove _ | clearQueue => False
  | dispatch .. | claim .. | claimSession .. | poll _ | removeMatching _ | reset | releaseClaim _
  | clearClaims | elsewhere .. => True

instance (fits : Session → Work → Prop) [∀ x work, Decidable (fits x work)] (s : Store) :
    (op : Operation ω) → Decidable (op.IsOrderly fits s)
  | requeue .. => inferInstanceAs (Decidable (_ ∧ ∃ x ∈ s.sessions, _))
  | updateStatus .. => inferInstanceAs (Decidable (_ ∧ ∃ x ∈ s.sessions, _))
  | enqueue _ | remove _ | clearQueue => isFalse id
  | dispatch .. | claim .. | claimSession .. | poll _ | removeMatching _ | reset | releaseClaim _
  | clearClaims | elsewhere .. => isTrue trivial

/-- Work is about the issue on record and has a priority that the store can hold. -/
def Fits (x : Session) (work : Work) : Prop :=
  x.issueId = work.issueId ∧ Store.IsStorable work.priority

instance (x : Session) (work : Work) : Decidable (Fits x work) :=
  inferInstanceAs (Decidable (_ ∧ _))

/-- A better priority than one that the store can hold is one that it can hold. -/
lemma isStorable_boosted {work : Work} {boost : Int} (hboost : 0 ≤ boost)
    (h : Store.IsStorable work.priority) (now : Binary64) :
    Store.IsStorable (work.boosted boost now).priority := by
  have hpos : (0 : Int) < twoPow 63 := by decide
  unfold Store.IsStorable at h ⊢
  simp only [Work.boosted]
  omega

/-- Every effect of an orderly operation keeps the invariant. -/
lemma Effect.coherent {now : Binary64} {s s' : Store} {op : Operation ω} {r : Report}
    (heffect : Effect now s op r s') (hnow : now.isNaN = false) (horderly : op.IsOrderly Fits s)
    (h : s.Coherent) : s'.Coherent := by
  have hwell := heffect.wellFormed hnow h.toWellFormed
  cases heffect with
  | refused => exact h
  | queued => exact horderly.elim
  | placed sessionId priority prompt idle => exact h.placed hwell rfl rfl rfl idle
  | failed => exact h.withSession hwell rfl
  | handedOut works => exact h.handsOut works
  | lost works => exact h.handsOut works
  | putBack =>
    obtain ⟨-, x, hx, hid, hunderway, hfits⟩ := horderly
    exact h.putBack hx hid hfits.1 hunderway hwell
  | @givenUp work boost cause =>
    obtain ⟨hboost, x, hx, hid, hunderway, hfits⟩ := horderly
    rcases cause with htime | hqueued | hpriority
    · simp [hnow] at htime
    · simp only [Store.hasQueued, List.any_eq_true, beq_iff_eq] at hqueued
      obtain ⟨v, hv, hvid⟩ := hqueued
      have hover := h.isUnderway_eq_false hv hx (hid.trans hvid.symm)
      simp [hunderway] at hover
    · exact absurd (isStorable_boosted hboost hfits.2 now) hpriority
  | removed => exact horderly.elim
  | removedMatching => exact h.withoutMatching hwell
  | emptied => exact horderly.elim
  | rebuilt => exact h.rebuilt now
  | unmarked => exact h.subclaims List.filter_sublist.subset
  | unmarkedAll => exact h.subclaims (List.nil_subset _)
  | moved =>
    obtain ⟨hstatus, x, hx, rfl, hunderway⟩ := horderly
    refine h.moved hx hunderway (fun _ => ⟨rfl, rfl, rfl⟩) (fun y => ?_) hwell
    rintro rfl
    exact absurd hstatus (by decide)

/-- An orderly operation keeps the invariant. -/
lemma coherent_after (op : Operation ω) {w : World ω} (hnow : w.clock.isNaN = false)
    (horderly : op.IsOrderly Fits w.store) (h : w.store.Coherent) :
    (op.after w).store.Coherent := by
  obtain ⟨s, heffect, hleaves⟩ := op.hasEffect w h.tables
  exact (heffect.coherent hnow horderly h).of_sameWork hleaves.store

end Operation

namespace World

variable {ω : Type}

/-- Every operation of a run keeps to the rules in the state in which it is performed. -/
def AllOrderly (fits : Session → Work → Prop) (w : World ω) : List (Operation ω) → Prop
  | [] => True
  | op :: ops => op.IsOrderly fits w.store ∧ AllOrderly fits (op.after w) ops

instance instDecidableAllOrderly (fits : Session → Work → Prop)
    [∀ x work, Decidable (fits x work)] :
    (ops : List (Operation ω)) → (w : World ω) → Decidable (w.AllOrderly fits ops)
  | [], _ => isTrue trivial
  | op :: ops, w =>
    have := instDecidableAllOrderly fits ops (op.after w)
    inferInstanceAs (Decidable (op.IsOrderly fits w.store ∧ AllOrderly fits (op.after w) ops))

/-- Orderly runs keep the invariant. -/
lemma coherent_runAll {w : World ω} (hnow : w.clock.isNaN = false) (h : w.store.Coherent)
    {ops : List (Operation ω)} (horderly : w.AllOrderly Operation.Fits ops) :
    (w.runAll ops).store.Coherent := by
  induction ops generalizing w with
  | nil => exact h
  | cons op ops ih =>
    have hafter := op.wellFormed_after hnow h.toWellFormed
    exact ih hafter.1 (op.coherent_after hnow horderly.1 h) horderly.2

/-- From an empty store every orderly run, of any length and in any order, leads to a state in which
the queue, the markers and the records of sessions agree. -/
theorem consistent_of_allOrderly {w : World ω} (hempty : w.store = {})
    (hnow : w.clock.isNaN = false) {ops : List (Operation ω)}
    (horderly : w.AllOrderly Operation.Fits ops) :
    (w.runAll ops).store.Consistent := by
  have hnew : w.store.Coherent := hempty ▸ .new
  exact (coherent_runAll hnow hnew horderly).consistent

/-- The work of an issue is dispatched under the only session id there is. -/
def placing (issueId : String) : Operation Unit :=
  .dispatch (.fixed [] "s") (Tracker.isQuiet_fixed [] "s") (.inBacklog issueId) "development"

/-- The work that `placing` queues. -/
def placedWork (issueId : String) : Work :=
  StoreBacked.newWork (.inBacklog issueId) "s" "development" 3 none 0

/-- An agent claims work, starts on it and puts it back, and another one takes it up. -/
def returningRun : List (Operation Unit) :=
  [placing "a", .claimSession "s" "u", .updateStatus "s" .running none none,
    .requeue (placedWork "a") 1, .claim "v" none]

/-- Work that is put back is claimed once more, and the tables agree. -/
theorem consistent_returningRun :
    fresh.AllOrderly Operation.Fits returningRun ∧
      (fresh.runAll returningRun).store.Consistent := by
  have horderly : fresh.AllOrderly Operation.Fits returningRun := by decide +kernel
  exact ⟨horderly, consistent_of_allOrderly rfl (by decide +kernel) horderly⟩

/-- An administrator removes a session that an agent has in hand, its id is used again for another
issue, and then the first agent puts its work back. -/
def staleRun : List (Operation Unit) :=
  [placing "a", .claimSession "s" "u", .removeMatching "s", placing "b", .claimSession "s" "v",
    .requeue (placedWork "a") 1]

/-- An agent puts back work whose priority is too large for the store. -/
def oversizedRun : List (Operation Unit) :=
  [placing "a", .claimSession "s" "u",
    .requeue { placedWork "a" with priority := 100000000000000000000 } 1]

/-- Neither condition on work that is put back can be left out: work on another issue than the one
on record gets queued next to its record, and work with a priority that does not fit leaves a
pending record without any work. -/
theorem not_consistent_of_misfit :
    (¬ ∀ ops, fresh.AllOrderly (fun _ work => Store.IsStorable work.priority) ops →
        (fresh.runAll ops).store.Consistent) ∧
      ¬ ∀ ops, fresh.AllOrderly (fun x work => x.issueId = work.issueId) ops →
        (fresh.runAll ops).store.Consistent := by
  constructor
  · intro h
    have hconsistent := h staleRun (by decide +kernel)
    exact absurd hconsistent.recorded (by decide +kernel)
  · intro h
    have hconsistent := h oversizedRun (by decide +kernel)
    have hpending : ∃ x ∈ (fresh.runAll oversizedRun).store.sessions, x.status = .pending := by
      decide +kernel
    have hempty : (fresh.runAll oversizedRun).store.queue = [] := by decide +kernel
    obtain ⟨x, hx, hstatus⟩ := hpending
    obtain ⟨w, hw, -⟩ := (hconsistent.pending_iff x hx).1 hstatus
    rw [hempty] at hw
    exact nomatch hw

end World

end IssueDispatch
