import IssueDispatch.Proofs.Queue.WellFormed

/-!
# Recovery of the queue

After a crash nothing is known about the queue and the markers: work may be queued whose session is
gone, a session may be queued and claimed at once, or neither.  A reset trusts the records of the
sessions alone.  `Session.RecoversTo` and `Work.Restores` say what becomes of one record and what
the work made of it carries; `Store.RecoversTo` says it of the three tables.

A recovered record is queued in the same place and gives the same work, so a second reset finds the
unfinished sessions in the order in which the first one found them.
-/

namespace IssueDispatch

/-- The statuses of a session whose work is still to be done. -/
def SessionStatus.unfinished : List SessionStatus := [.pending, .claimed, .running]

/-- An unfinished session waits for a worker again, any other one is left alone, and what a session
has cost stays on its record. -/
structure Session.RecoversTo (now : Binary64) (x y : Session) : Prop where
  unfinished : x.status ∈ SessionStatus.unfinished →
    y = { x with
      status := .pending
      workerId := none
      claimedAt := none
      providerSessionId := none
      updatedAt := now }
  finished : x.status ∉ SessionStatus.unfinished → y = x
  cost : y.totalCost = x.totalCost
  inputTokens : y.inputTokens = x.inputTokens
  outputTokens : y.outputTokens = x.outputTokens

/-- Two records differ at most in the time of their last change. -/
def Session.EqUpToUpdate (x y : Session) : Prop := { y with updatedAt := x.updatedAt } = x

/-- The work carries what the record of its session tells.  An empty type of work and a time of zero
count as unknown. -/
structure Work.Restores (w : Work) (x : Session) : Prop where
  sessionId : w.sessionId = x.sessionId
  issueId : w.issueId = x.issueId
  projectName : w.projectName = x.projectName
  workType : w.workType = (x.workType.filter (· != "")).getD "development"
  priority : w.priority = x.priority.getD 3
  queuedAt : w.queuedAt = (x.queuedAt.filter (!·.isZero)).getD x.createdAt

/-- No marker is left, every record has been recovered in its place, and the queue holds the work of
each unfinished session and nothing else.  The other tables are as they were. -/
structure Store.RecoversTo (now : Binary64) (s s' : Store) : Prop where
  claims : s'.claims = []
  sessions : List.Forall₂ (Session.RecoversTo now) s.sessions s'.sessions
  queue : ∃ order, order.Perm (s.sessions.filter (·.status ∈ SessionStatus.unfinished)) ∧
    List.Forall₂ Work.Restores s'.queue order
  queueIds : (s.sessions.map Session.sessionId).Nodup → (s'.queue.map Work.sessionId).Nodup
  others : s' = { s with claims := s'.claims, sessions := s'.sessions, queue := s'.queue }

lemma SessionStatus.mem_unfinished {status : SessionStatus} :
    status ∈ SessionStatus.unfinished ↔ status.isUnfinished = true := by
  cases status <;> simp [unfinished, isUnfinished]

namespace Session

/-- The record of a session after a reset. -/
def recovered (now : Binary64) (x : Session) : Session :=
  if x.status.isUnfinished then { x.backToPending now with providerSessionId := none } else x

lemma recovered_of_isUnfinished {x : Session} (h : x.status.isUnfinished = true)
    (now : Binary64) :
    x.recovered now = { x.backToPending now with providerSessionId := none } := if_pos h

lemma recovered_of_not_isUnfinished {x : Session} (h : ¬ x.status.isUnfinished = true)
    (now : Binary64) : x.recovered now = x := if_neg h

lemma recoversTo_recovered (now : Binary64) (x : Session) : x.RecoversTo now (x.recovered now) := by
  by_cases h : x.status.isUnfinished = true
  · have hmem := SessionStatus.mem_unfinished.2 h
    rw [recovered_of_isUnfinished h]
    exact ⟨fun _ => rfl, fun hnot => absurd hmem hnot, rfl, rfl, rfl⟩
  · have hmem : x.status ∉ SessionStatus.unfinished := fun hmem =>
      h (SessionStatus.mem_unfinished.1 hmem)
    rw [recovered_of_not_isUnfinished h]
    exact ⟨fun hmem' => absurd hmem' hmem, fun _ => rfl, rfl, rfl, rfl⟩

lemma restores_toWork (x : Session) : x.toWork.Restores x where
  sessionId := rfl
  issueId := rfl
  projectName := rfl
  workType := by
    simp only [toWork]
    split
    · rename_i hnone
      rw [hnone]
      rfl
    · rename_i hempty
      rw [hempty]
      rfl
    · rename_i t hne ht
      rw [ht, Option.filter_some, if_pos (bne_iff_ne.2 hne)]
      rfl
  priority := rfl
  queuedAt := by
    simp only [toWork, queueTime]
    split
    · rename_i t ht
      rw [ht, Option.filter_some]
      by_cases hzero : t.isZero = true <;> simp [hzero]
    · rename_i hnone
      rw [hnone]
      rfl

/-- A reset leaves unfinished what is unfinished and nothing else. -/
@[simp] lemma isUnfinished_recovered (now : Binary64) (x : Session) :
    (x.recovered now).status.isUnfinished = x.status.isUnfinished := by
  by_cases h : x.status.isUnfinished = true
  · rw [recovered_of_isUnfinished h, h]
    rfl
  · rw [recovered_of_not_isUnfinished h]

@[simp] lemma queuedAt_recovered (now : Binary64) (x : Session) :
    (x.recovered now).queuedAt = x.queuedAt := by
  unfold recovered
  split <;> rfl

@[simp] lemma createdAt_recovered (now : Binary64) (x : Session) :
    (x.recovered now).createdAt = x.createdAt := by
  unfold recovered
  split <;> rfl

@[simp] lemma toWork_recovered (now : Binary64) (x : Session) :
    (x.recovered now).toWork = x.toWork := by
  unfold recovered
  split <;> rfl

/-- A second reset changes nothing but the time of the last change. -/
lemma eqUpToUpdate_recovered (now later : Binary64) (x : Session) :
    (x.recovered now).EqUpToUpdate ((x.recovered now).recovered later) := by
  unfold EqUpToUpdate
  by_cases h : x.status.isUnfinished = true
  · have hagain : (x.recovered now).status.isUnfinished = true := by
      rw [isUnfinished_recovered, h]
    rw [recovered_of_isUnfinished hagain, recovered_of_isUnfinished h]
    rfl
  · rw [recovered_of_not_isUnfinished h, recovered_of_not_isUnfinished h]

end Session

namespace Store

variable {s : Store}

lemma rebuilt_sessions (s : Store) (now : Binary64) :
    (s.rebuilt now).sessions = s.sessions.map (Session.recovered now) := rfl

lemma rebuilt_queue (s : Store) (now : Binary64) :
    (s.rebuilt now).queue = s.unfinished.map Session.toWork := rfl

lemma reset_of_has (h : s.Has workTables) (now : Binary64) :
    s.reset now = (.ok (s.claims.length, s.unfinished.length), s.rebuilt now) := by
  have hs : s.Has [.workClaims, .workQueue, .sessions] := h.mono (by simp [workTables])
  exact changing_of_has hs _

lemma has_rebuilt {ts : List Table} (h : s.Has ts) (now : Binary64) : (s.rebuilt now).Has ts := h

lemma length_unfinished (s : Store) :
    s.unfinished.length = (s.sessions.filter (·.status ∈ SessionStatus.unfinished)).length := by
  rw [s.unfinished_perm.length_eq]
  simp only [SessionStatus.mem_unfinished, Bool.decide_eq_true]

/-- The unfinished sessions are in the same order after a reset, since neither of the times by which
they are ordered has changed. -/
lemma unfinished_rebuilt (s : Store) (now : Binary64) :
    (s.rebuilt now).unfinished = s.unfinished.map (Session.recovered now) := by
  have hfilter : (s.rebuilt now).sessions.filter (·.status.isUnfinished) =
      (s.sessions.filter (·.status.isUnfinished)).map (Session.recovered now) := by
    rw [rebuilt_sessions, List.filter_map]
    congr 2
    funext x
    simp
  rw [unfinished, unfinished, hfilter]
  refine (List.map_mergeSort ?_).symm
  intro x _ y _
  simp

/-- The queue that a reset builds is built again by the next one. -/
lemma rebuilt_rebuilt_queue (s : Store) (now later : Binary64) :
    ((s.rebuilt now).rebuilt later).queue = (s.rebuilt now).queue := by
  rw [rebuilt_queue, unfinished_rebuilt, List.map_map, rebuilt_queue]
  congr 1
  funext x
  simp

lemma recoversTo_rebuilt (s : Store) (now : Binary64) : s.RecoversTo now (s.rebuilt now) where
  claims := rfl
  sessions := by
    rw [rebuilt_sessions, List.forall₂_map_right_iff, List.forall₂_same]
    intro x _
    exact x.recoversTo_recovered now
  queue := by
    refine ⟨s.unfinished, ?_, ?_⟩
    · have hperm := s.unfinished_perm
      simpa only [SessionStatus.mem_unfinished, Bool.decide_eq_true] using hperm
    · rw [rebuilt_queue, List.forall₂_map_left_iff, List.forall₂_same]
      intro x _
      exact x.restores_toWork
  queueIds := by
    intro hids
    have hmap : (s.rebuilt now).queue.map Work.sessionId = s.unfinished.map Session.sessionId := by
      rw [rebuilt_queue, List.map_map]
      rfl
    rw [hmap, (s.unfinished_perm.map _).nodup_iff]
    exact hids.sublist (List.filter_sublist.map _)
  others := rfl

/-- A reset gives the numbers of markers and of unfinished sessions, and recovers whatever was in
the tables of work.  A second reset at any later time finds no marker and as many sessions; it
leaves the work in the order of claims, and the records up to the time of their last change, as they
were. -/
theorem reset_recovers (h : s.Has workTables) (now later : Binary64) :
    ∃ s' s'' n, n = (s.sessions.filter (·.status ∈ SessionStatus.unfinished)).length ∧
      s.reset now = (.ok (s.claims.length, n), s') ∧ s.RecoversTo now s' ∧
      s'.reset later = (.ok (0, n), s'') ∧
      s'.listPending = (.ok s'.inClaimOrder, s') ∧
      s''.listPending = (.ok s'.inClaimOrder, s'') ∧
      List.Forall₂ Session.EqUpToUpdate s'.sessions s''.sessions := by
  have hrebuilt : (s.rebuilt now).Has [.workQueue] := h.mono (by simp [workTables])
  have hqueue := s.rebuilt_rebuilt_queue now later
  refine ⟨s.rebuilt now, (s.rebuilt now).rebuilt later, _, rfl, ?_, s.recoversTo_rebuilt now, ?_,
    ?_, ?_, ?_⟩
  · rw [reset_of_has h, length_unfinished]
  · rw [reset_of_has (has_rebuilt h now), unfinished_rebuilt, List.length_map, length_unfinished]
    rfl
  · exact reading_of_has hrebuilt _
  · rw [listPending, reading_of_has (has_rebuilt hrebuilt later), inClaimOrder, hqueue]
    rfl
  · rw [rebuilt_sessions _ later, List.forall₂_map_right_iff, List.forall₂_same]
    intro y hy
    obtain ⟨x, -, rfl⟩ := List.mem_map.1 hy
    exact x.eqUpToUpdate_recovered now later

/-- A store after a crash: a session is queued and claimed at once, one is running without either,
one is over, and there are work and a marker of sessions that nobody knows. -/
def crashed : Store where
  queue := [
    { sessionId := "gone", issueId := "i", issueIdentifier := "I-1", priority := 0, queuedAt := 1,
      workType := "qa" },
    { sessionId := "a", issueId := "j", issueIdentifier := "J-1", priority := 2, queuedAt := 3,
      workType := "qa" }]
  claims := [⟨"a", "w", 4⟩, ⟨"lost", "w", 5⟩]
  sessions := [
    { sessionId := "a", issueId := "j", status := .claimed, workType := some "qa",
      workerId := some "w", priority := some 2, queuedAt := some 3, claimedAt := some 4,
      totalCost := 7, createdAt := 3, updatedAt := 4 },
    { sessionId := "b", issueId := "k", status := .running, workType := some "",
      workerId := some "v", queuedAt := some 0, providerSessionId := some "p", inputTokens := 6,
      createdAt := 2, updatedAt := 4 },
    { sessionId := "c", issueId := "l", status := .completed, createdAt := 1, updatedAt := 2 }]

theorem reset_recovers_crashed :
    crashed.Has workTables ∧
      ∃ s' s'', crashed.reset 9 = (.ok (2, 2), s') ∧ crashed.RecoversTo 9 s' ∧
        s'.reset 12 = (.ok (0, 2), s'') ∧ s''.listPending = (.ok s'.inClaimOrder, s'') := by
  have htables : crashed.Has workTables := by simp [Has, crashed]
  obtain ⟨s', s'', n, hn, hreset, hrecovers, hagain, -, hpending, -⟩ :=
    reset_recovers htables 9 12
  have htwo : n = 2 := by
    rw [hn]
    decide
  subst htwo
  exact ⟨htables, s', s'', hreset, hrecovers, hagain, hpending⟩

end Store

end IssueDispatch
