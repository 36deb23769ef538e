import IssueDispatch.Proofs.Queue.WellFormed
import IssueDispatch.Proofs.Standard

/-!
# The ledger of the queue

Whatever happens to an entry of the queue is booked: it is inserted, and later it is handed out to a
worker or dropped.  The ledger of an operation is read off from what the operation reports and from
the queue before and after it, so it holds for code that books nothing.

`Entry.Replays` performs the entries of a ledger one after the other on a queue: an insertion needs
a session that is not queued, and the other two take away exactly the work that stands in the queue.
Every operation leads from its queue to the next one as its ledger says, and all counts and all
statements on what a hand-out returns follow from that alone.
-/

namespace IssueDispatch

/-- What happens to an entry of the queue. -/
inductive Entry where
  | inserted (work : Work)
  | handedOut (work : Work)
  | dropped (work : Work)
deriving DecidableEq

namespace Entry

/-- The work that is booked. -/
def work : Entry → Work
  | inserted w | handedOut w | dropped w => w

/-- How often work of a session was inserted. -/
def insertions (sessionId : String) (es : List Entry) : Nat :=
  es.countP fun
    | inserted w => w.sessionId == sessionId
    | _ => false

/-- How often work of a session was handed to a worker. -/
def handOuts (sessionId : String) (es : List Entry) : Nat :=
  es.countP fun
    | handedOut w => w.sessionId == sessionId
    | _ => false

/-- How often work of a session was deleted without being handed out. -/
def drops (sessionId : String) (es : List Entry) : Nat :=
  es.countP fun
    | dropped w => w.sessionId == sessionId
    | _ => false

/-- What an entry does to the queue. -/
inductive Step : List Work → Entry → List Work → Prop
  | inserted {queue : List Work} {w : Work} (free : w.sessionId ∉ queue.map Work.sessionId)
      (time : w.queuedAt.isNaN = false) : Step queue (.inserted w) (queue ++ [w])
  | handedOut {queue : List Work} {w : Work} (mem : w ∈ queue) :
      Step queue (.handedOut w) (queue.filter fun x => x.sessionId != w.sessionId)
  | dropped {queue : List Work} {w : Work} (mem : w ∈ queue) :
      Step queue (.dropped w) (queue.filter fun x => x.sessionId != w.sessionId)

/-- Entries that lead, one after the other, from one queue to another. -/
inductive Replays : List Work → List Entry → List Work → Prop
  | nil (queue : List Work) : Replays queue [] queue
  | cons {queue queue₁ queue' : List Work} {e : Entry} {es : List Entry}
      (step : Step queue e queue₁) (rest : Replays queue₁ es queue') :
      Replays queue (e :: es) queue'

variable {queue queue₁ queue' : List Work} {e : Entry} {es es' : List Entry} {w : Work}

namespace Replays

lemma append (h : Replays queue es queue₁) (h' : Replays queue₁ es' queue') :
    Replays queue (es ++ es') queue' := by
  induction h with
  | nil => exact h'
  | cons step _ ih => exact .cons step (ih h')

end Replays

/-! ## What a ledger proves -/

lemma Step.nodup (h : Step queue e queue') (hnodup : (queue.map Work.sessionId).Nodup) :
    (queue'.map Work.sessionId).Nodup := by
  cases h with
  | inserted free time =>
    rw [List.map_append, List.map_singleton, ← List.concat_eq_append]
    exact hnodup.concat free
  | handedOut mem => exact hnodup.sublist (List.filter_sublist.map _)
  | dropped mem => exact hnodup.sublist (List.filter_sublist.map _)

/-- The number of entries of a session in a queue. -/
def occupancy (sessionId : String) (queue : List Work) : Nat :=
  (queue.map Work.sessionId).count sessionId

lemma occupancy_append (sessionId : String) (queue : List Work) (w : Work) :
    occupancy sessionId (queue ++ [w]) =
      occupancy sessionId queue + if w.sessionId == sessionId then 1 else 0 := by
  simp [occupancy, List.count_cons]

lemma occupancy_filter (sessionId taken : String) (queue : List Work) :
    occupancy sessionId (queue.filter fun x => x.sessionId != taken) =
      if taken == sessionId then 0 else occupancy sessionId queue := by
  rw [occupancy, occupancy, List.count_eq_countP, List.count_eq_countP, List.countP_map,
    List.countP_map, List.countP_filter]
  split
  · rename_i htaken
    rw [List.countP_eq_zero]
    intro x _
    simp_all
  · rename_i htaken
    refine List.countP_congr fun x _ => ?_
    by_cases hx : x.sessionId = sessionId
    · simpa [hx] using fun h : sessionId = taken => htaken (by simp [h])
    · simp [hx]

/-- Work that stands in a queue without repetitions is the only entry of its session. -/
lemma occupancy_of_mem (hnodup : (queue.map Work.sessionId).Nodup) (mem : w ∈ queue) :
    occupancy w.sessionId queue = 1 :=
  List.count_eq_one_of_mem hnodup (List.mem_map_of_mem mem)

/-- Each step is booked on one side or the other. -/
lemma Step.balance (h : Step queue e queue') (hnodup : (queue.map Work.sessionId).Nodup)
    (sessionId : String) :
    insertions sessionId [e] + occupancy sessionId queue =
      handOuts sessionId [e] + drops sessionId [e] + occupancy sessionId queue' := by
  cases h with
  | inserted free time =>
    rw [occupancy_append]
    simp [insertions, handOuts, drops, List.countP_cons, Nat.add_comm]
  | @handedOut w mem =>
    rw [occupancy_filter]
    by_cases hid : w.sessionId = sessionId
    · subst hid
      simp [insertions, handOuts, drops, occupancy_of_mem hnodup mem]
    · simp [insertions, handOuts, drops, hid]
  | @dropped w mem =>
    rw [occupancy_filter]
    by_cases hid : w.sessionId = sessionId
    · subst hid
      simp [insertions, handOuts, drops, occupancy_of_mem hnodup mem]
    · simp [insertions, handOuts, drops, hid]

namespace Replays

/-- No session is ever queued twice. -/
lemma nodup (h : Replays queue es queue') (hnodup : (queue.map Work.sessionId).Nodup) :
    (queue'.map Work.sessionId).Nodup := by
  induction h with
  | nil => exact hnodup
  | cons step _ ih => exact ih (step.nodup hnodup)

/-- Every entry that was ever inserted has been handed out, has been dropped, or is still there. -/
lemma balance (h : Replays queue es queue') (hnodup : (queue.map Work.sessionId).Nodup)
    (sessionId : String) :
    insertions sessionId es + occupancy sessionId queue =
      handOuts sessionId es + drops sessionId es + occupancy sessionId queue' := by
  induction h with
  | nil => simp [insertions, handOuts, drops]
  | @cons _ _ _ e es step _ ih =>
    have hstep := step.balance hnodup sessionId
    have hrest := ih (step.nodup hnodup)
    have hinsertions : insertions sessionId (e :: es) =
        insertions sessionId [e] + insertions sessionId es := by
      rw [insertions, ← List.singleton_append, List.countP_append]
      rfl
    have hhandOuts : handOuts sessionId (e :: es) =
        handOuts sessionId [e] + handOuts sessionId es := by
      rw [handOuts, ← List.singleton_append, List.countP_append]
      rfl
    have hdrops : drops sessionId (e :: es) =
        drops sessionId [e] + drops sessionId es := by
      rw [drops, ← List.singleton_append, List.countP_append]
      rfl
    omega

/-- Work that stands in the queue at the end was there all the time, or it was inserted and nothing
has happened to its session since. -/
lemma latest (h : Replays queue es queue') (hw : w ∈ queue') :
    (w ∈ queue ∧ ∀ e ∈ es, e.work.sessionId ≠ w.sessionId) ∨
      ∃ es₁ es₂, es = es₁ ++ .inserted w :: es₂ ∧
        ∀ e ∈ es₂, e.work.sessionId ≠ w.sessionId := by
  induction h with
  | nil => exact Or.inl ⟨hw, by simp⟩
  | @cons _ _ _ e es step _ ih =>
    rcases ih hw with ⟨hmem, hsilent⟩ | ⟨es₁, es₂, rfl, hsilent⟩
    · cases step with
      | @inserted v free time =>
        rcases List.mem_append.1 hmem with hmem | hmem
        · refine Or.inl ⟨hmem, List.forall_mem_cons.2 ⟨?_, hsilent⟩⟩
          intro hid
          exact free (List.mem_map.2 ⟨w, hmem, hid.symm⟩)
        · obtain rfl := List.mem_singleton.1 hmem
          exact Or.inr ⟨[], es, rfl, hsilent⟩
      | handedOut mem =>
        obtain ⟨hmem, hid⟩ := List.mem_filter.1 hmem
        exact Or.inl ⟨hmem, List.forall_mem_cons.2 ⟨(bne_iff_ne.1 hid).symm, hsilent⟩⟩
      | dropped mem =>
        obtain ⟨hmem, hid⟩ := List.mem_filter.1 hmem
        exact Or.inl ⟨hmem, List.forall_mem_cons.2 ⟨(bne_iff_ne.1 hid).symm, hsilent⟩⟩
    · exact Or.inr ⟨e :: es₁, es₂, rfl, hsilent⟩

/-- What is inserted was queued at a time that is a number. -/
lemma time (h : Replays queue es queue') (hw : .inserted w ∈ es) : w.queuedAt.isNaN = false := by
  induction h with
  | nil => exact nomatch hw
  | cons step _ ih =>
    rcases List.mem_cons.1 hw with rfl | hw
    · cases step with
      | inserted _ time => exact time
    · exact ih hw

/-- A ledger can be cut anywhere. -/
lemma split {es₁ es₂ : List Entry} (h : Replays queue (es₁ ++ es₂) queue') :
    ∃ queue₁, Replays queue es₁ queue₁ ∧ Replays queue₁ es₂ queue' := by
  induction es₁ generalizing queue with
  | nil => exact ⟨queue, .nil queue, h⟩
  | cons e es₁ ih =>
    cases h with
    | cons step rest =>
      obtain ⟨queue₁, h₁, h₂⟩ := ih rest
      exact ⟨queue₁, .cons step h₁, h₂⟩

/-- What is handed out was inserted before, and nothing has happened to its session in between. -/
lemma inserted_before_handOut {es₁ es₂ : List Entry}
    (h : Replays [] (es₁ ++ .handedOut w :: es₂) queue') :
    ∃ before since, es₁ = before ++ .inserted w :: since ∧
      ∀ e ∈ since, e.work.sessionId ≠ w.sessionId := by
  obtain ⟨queue₁, h₁, h₂⟩ := h.split
  cases h₂ with
  | cons step _ =>
    cases step with
    | handedOut mem =>
      rcases h₁.latest mem with ⟨hmem, -⟩ | hbefore
      · exact nomatch hmem
      · exact hbefore

/-- Between two hand-outs of a session it is inserted again. -/
lemma inserted_between_handOuts {es₁ es₂ es₃ : List Entry} {v : Work}
    (h : Replays [] (es₁ ++ .handedOut v :: (es₂ ++ .handedOut w :: es₃)) queue')
    (hsame : v.sessionId = w.sessionId) : .inserted w ∈ es₂ := by
  rw [← List.cons_append, ← List.append_assoc] at h
  obtain ⟨before, since, heq, hsilent⟩ := h.inserted_before_handOut
  rcases List.append_eq_append_iff.1 heq with ⟨cs, -, hcs⟩ | ⟨cs, -, hcs⟩
  · cases cs with
    | nil => exact nomatch (List.cons.inj hcs).1
    | cons c cs =>
      rw [(List.cons.inj hcs).2]
      simp
  · have hmem : .handedOut v ∈ .inserted w :: since := by
      rw [hcs]
      simp
    rcases List.mem_cons.1 hmem with hmem | hmem
    · exact nomatch hmem
    · exact absurd hsame (hsilent _ hmem)

end Replays

end Entry

/-! ## The ledger of a run -/

/-- Whether work of a session is among some work. -/
def hasSession (ws : List Work) (sessionId : String) : Bool :=
  ws.any fun w => w.sessionId == sessionId

lemma hasSession_eq_true_iff {ws : List Work} {sessionId : String} :
    hasSession ws sessionId = true ↔ sessionId ∈ ws.map Work.sessionId := by
  simp [hasSession]

/-- Whether an entry of a queue has been deleted without being handed out: its session is not handed
out, and afterwards it is not queued or has been inserted anew. -/
def Report.dropped (r : Report) (after : Store) (x : Work) : Bool :=
  !hasSession r.handedOut x.sessionId &&
    (hasSession r.inserted x.sessionId || !after.hasQueued x.sessionId)

/-- What is booked for a report, given the stores before and after it. -/
def Report.ledger (r : Report) (before after : Store) : List Entry :=
  (before.queue.filter (r.dropped after)).map .dropped ++ r.handedOut.map .handedOut ++
    r.inserted.map .inserted

/-- What an operation books. -/
def Operation.ledger {ω : Type} (op : Operation ω) (w : World ω) : List Entry :=
  (op.report w).ledger w.store (op.after w).store

/-! ### An operation does what its ledger says -/

/-- Work of several sessions may be taken out one session after the other. -/
lemma filter_hasSession_cons (w : Work) (ws queue : List Work) :
    (queue.filter fun x => !hasSession (w :: ws) x.sessionId) =
      (queue.filter fun x => x.sessionId != w.sessionId).filter
        fun x => !hasSession ws x.sessionId := by
  rw [List.filter_filter]
  refine List.filter_congr fun x _ => ?_
  rw [hasSession, List.any_cons, Bool.not_or, Bool.and_comm, bne, BEq.comm]
  rfl

namespace Entry.Replays

variable {queue : List Work}

/-- Entries that take work away may be booked for any work that stands in the queue. -/
lemma taken {take : Work → Entry}
    (hstep : ∀ {queue w}, w ∈ queue →
      Step queue (take w) (queue.filter fun x => x.sessionId != w.sessionId))
    {ws : List Work} (hmem : ws ⊆ queue) (hnodup : (ws.map Work.sessionId).Nodup) :
    Replays queue (ws.map take) (queue.filter fun x => !hasSession ws x.sessionId) := by
  induction ws generalizing queue with
  | nil =>
    have hall : (queue.filter fun x => !hasSession [] x.sessionId) = queue := by
      simp [hasSession]
    rw [hall]
    exact .nil queue
  | cons w ws ih =>
    rw [List.map_cons, List.nodup_cons] at hnodup
    have hrest : ws ⊆ queue.filter fun x => x.sessionId != w.sessionId := by
      intro x hx
      refine List.mem_filter.2 ⟨hmem (List.mem_cons_of_mem w hx), bne_iff_ne.2 fun hid => ?_⟩
      exact hnodup.1 (hid ▸ List.mem_map_of_mem hx)
    rw [filter_hasSession_cons]
    exact .cons (hstep (hmem List.mem_cons_self)) (ih hrest hnodup.2)

/-- Insertions may be booked for work of sessions that are not queued. -/
lemma added {ws : List Work} (hnodup : ((queue ++ ws).map Work.sessionId).Nodup)
    (htime : ∀ w ∈ ws, w.queuedAt.isNaN = false) :
    Replays queue (ws.map .inserted) (queue ++ ws) := by
  induction ws generalizing queue with
  | nil =>
    rw [List.append_nil]
    exact .nil queue
  | cons w ws ih =>
    have hassoc : queue ++ w :: ws = queue ++ [w] ++ ws := by simp
    rw [hassoc] at hnodup ⊢
    have hfree : w.sessionId ∉ queue.map Work.sessionId := by
      have hw := hnodup.sublist ((List.sublist_append_left (queue ++ [w]) ws).map Work.sessionId)
      rw [List.map_append, List.map_singleton, ← List.concat_eq_append] at hw
      exact (List.nodup_concat _ _).1 hw |>.1
    exact .cons (.inserted hfree (htime w (by simp)))
      (ih hnodup fun x hx => htime x (by simp [hx]))

end Entry.Replays

/-- What is handed out, one piece after the other, is what is missing from the queue afterwards. -/
lemma Store.HandsOut.queue_eq {worker : String} {now : Binary64} {s s' : Store} {ws : List Work}
    (h : s.HandsOut worker now ws s') (hnodup : (s.queue.map Work.sessionId).Nodup) :
    s'.queue = (s.queue.filter fun x => !hasSession ws x.sessionId) ∧ ws ⊆ s.queue ∧
      (ws.map Work.sessionId).Nodup := by
  induction h with
  | nil s => simp [hasSession]
  | @cons s s' w ws mem _ ih =>
    have hqueue : (s.handOut w.sessionId worker now).queue =
        s.queue.filter fun x => x.sessionId != w.sessionId := rfl
    rw [hqueue] at ih
    obtain ⟨heq, hsub, hws⟩ := ih (hnodup.sublist (List.filter_sublist.map _))
    refine ⟨?_, List.cons_subset.2 ⟨mem, fun _ hx => List.filter_sublist.subset (hsub hx)⟩, ?_⟩
    · rw [heq, filter_hasSession_cons]
    · rw [List.map_cons, List.nodup_cons]
      refine ⟨fun hw => ?_, hws⟩
      obtain ⟨x, hx, hid⟩ := List.mem_map.1 hw
      exact bne_iff_ne.1 (List.mem_filter.1 (hsub hx)).2 hid

namespace Operation

variable {ω : Type} {now : Binary64} {s s' : Store} {op : Operation ω} {r : Report}

/-- An operation keeps the entries of some sessions, takes out what it hands out, and adds what it
inserts. -/
structure Accounts (s : Store) (r : Report) (s' : Store) (keep : String → Bool) : Prop where
  queue_eq : s'.queue = (s.queue.filter fun x =>
    keep x.sessionId && !hasSession r.handedOut x.sessionId) ++ r.inserted
  handedOut : r.handedOut ⊆ s.queue
  distinct : (r.handedOut.map Work.sessionId).Nodup

lemma Accounts.of_inserted {keep : String → Bool} {ws : List Work}
    (h : s'.queue = (s.queue.filter fun x => keep x.sessionId) ++ ws) :
    Accounts s { inserted := ws } s' keep where
  queue_eq := by simpa [hasSession] using h
  handedOut := List.nil_subset _
  distinct := List.nodup_nil

/-- Every effect accounts for the queue. -/
lemma Effect.accounts (heffect : Effect now s op r s') (h : s.WellFormed) :
    ∃ keep, Accounts s r s' keep := by
  cases heffect with
  | refused => exact ⟨fun _ => true, .of_inserted (by simp)⟩
  | queued => exact ⟨fun _ => true, .of_inserted (by simp)⟩
  | placed => exact ⟨fun _ => true, .of_inserted (by simp [Store.withSession])⟩
  | failed => exact ⟨fun _ => true, .of_inserted (by simp [Store.withSession])⟩
  | handedOut works =>
    obtain ⟨heq, hsub, hws⟩ := works.queue_eq h.queueIds
    exact ⟨fun _ => true, by simpa using heq, hsub, hws⟩
  | @lost _ ws _ works =>
    obtain ⟨heq, -, -⟩ := works.queue_eq h.queueIds
    exact ⟨fun sessionId => !hasSession ws sessionId, .of_inserted (by simpa using heq)⟩
  | putBack =>
    exact ⟨fun _ => true, .of_inserted (by simp [Store.giveUp, Store.unmark, Store.updateSession])⟩
  | givenUp =>
    exact ⟨fun _ => true, .of_inserted (by simp [Store.giveUp, Store.unmark, Store.updateSession])⟩
  | removed sessionId => exact ⟨(· != sessionId), .of_inserted (by simp [Store.unqueue])⟩
  | removedMatching part =>
    exact ⟨(!Store.matchesPart part ·), .of_inserted (by simp [Store.withoutMatching])⟩
  | emptied => exact ⟨fun _ => false, .of_inserted (by simp)⟩
  | rebuilt => exact ⟨fun _ => false, .of_inserted (by simp [Store.rebuilt])⟩
  | unmarked => exact ⟨fun _ => true, .of_inserted (by simp [Store.unmark])⟩
  | unmarkedAll => exact ⟨fun _ => true, .of_inserted (by simp)⟩
  | moved => exact ⟨fun _ => true, .of_inserted (by simp [Store.updateSession])⟩

end Operation

namespace Operation

variable {ω : Type} {now : Binary64} {s s' : Store} {op : Operation ω} {r : Report}
  {keep : String → Bool}

/-- What is dropped is what is neither handed out nor kept. -/
lemma Accounts.dropped_eq (h : Accounts s r s' keep) (hnodup : (s'.queue.map Work.sessionId).Nodup)
    {x : Work} (hx : x ∈ s.queue) :
    r.dropped s' x = (!hasSession r.handedOut x.sessionId && !keep x.sessionId) := by
  rw [Report.dropped]
  by_cases hgiven : hasSession r.handedOut x.sessionId = true
  · simp [hgiven]
  simp only [Bool.not_eq_true] at hgiven
  rw [hgiven, Bool.not_false, Bool.true_and, Bool.true_and]
  rw [h.queue_eq, List.map_append] at hnodup
  by_cases hkeep : keep x.sessionId = true
  · have hstays : x ∈ s.queue.filter fun x =>
        keep x.sessionId && !hasSession r.handedOut x.sessionId :=
      List.mem_filter.2 ⟨hx, by simp [hkeep, hgiven]⟩
    have hqueued : s'.hasQueued x.sessionId = true := by
      rw [Store.hasQueued, h.queue_eq]
      exact List.any_eq_true.2 ⟨x, List.mem_append_left _ hstays, by simp⟩
    have hfresh : hasSession r.inserted x.sessionId = false := by
      rw [← Bool.not_eq_true, hasSession_eq_true_iff]
      exact fun hins =>
        (List.nodup_append.1 hnodup).2.2 _ (List.mem_map_of_mem hstays) _ hins rfl
    rw [hqueued, hfresh, hkeep]
    rfl
  · simp only [Bool.not_eq_true] at hkeep
    rw [hkeep, Bool.not_false, Bool.or_eq_true, Bool.not_eq_true']
    refine or_iff_not_imp_right.2 fun hqueued => ?_
    simp only [Bool.not_eq_false, Store.hasQueued, h.queue_eq, List.any_eq_true,
      List.mem_append, List.mem_filter, beq_iff_eq] at hqueued
    obtain ⟨y, ⟨-, hy⟩ | hy, hid⟩ := hqueued
    · simp [hid, hkeep] at hy
    · exact List.any_eq_true.2 ⟨y, hy, by simp [hid]⟩

/-- What accounts for a queue replays its ledger. -/
lemma Accounts.replays (h : Accounts s r s' keep) (hwell : s.WellFormed) (hwell' : s'.WellFormed) :
    Entry.Replays s.queue (r.ledger s s') s'.queue := by
  have hsame {x : Work} (hx : x ∈ s.queue) :
      hasSession (s.queue.filter (r.dropped s')) x.sessionId = r.dropped s' x := by
    rw [Bool.eq_iff_iff, hasSession_eq_true_iff, List.mem_map]
    constructor
    · rintro ⟨y, hy, hid⟩
      obtain ⟨-, hy⟩ := List.mem_filter.1 hy
      rwa [Report.dropped, hid] at hy
    · intro hdropped
      exact ⟨x, List.mem_filter.2 ⟨hx, hdropped⟩, rfl⟩
  have hdrop := Entry.Replays.taken .dropped
    (List.filter_sublist (p := r.dropped s') (l := s.queue)).subset
    (hwell.queueIds.sublist (List.filter_sublist.map _))
  have hrest : ∀ w ∈ r.handedOut, w ∈ s.queue.filter fun x =>
      !hasSession (s.queue.filter (r.dropped s')) x.sessionId := by
    intro w hw
    refine List.mem_filter.2 ⟨h.handedOut hw, ?_⟩
    rw [hsame (h.handedOut hw), h.dropped_eq hwell'.queueIds (h.handedOut hw),
      hasSession_eq_true_iff.2 (List.mem_map_of_mem hw)]
    rfl
  have hgive := Entry.Replays.taken .handedOut hrest h.distinct
  have hleft : ((s.queue.filter fun x =>
      !hasSession (s.queue.filter (r.dropped s')) x.sessionId).filter fun x =>
        !hasSession r.handedOut x.sessionId) =
      s.queue.filter fun x => keep x.sessionId && !hasSession r.handedOut x.sessionId := by
    rw [List.filter_filter]
    refine List.filter_congr fun x hx => ?_
    rw [hsame hx, h.dropped_eq hwell'.queueIds hx]
    cases hasSession r.handedOut x.sessionId <;> cases keep x.sessionId <;> rfl
  rw [hleft] at hgive
  rw [h.queue_eq]
  refine (hdrop.append hgive).append (Entry.Replays.added ?_ fun w hw => hwell'.queueTimes w ?_)
  · rw [← h.queue_eq]
    exact hwell'.queueIds
  · rw [h.queue_eq]
    exact List.mem_append_right _ hw

/-- Every operation does to the queue what its ledger says. -/
lemma ledger_replays (op : Operation ω) {w : World ω} (hnow : w.clock.isNaN = false)
    (h : w.store.WellFormed) :
    Entry.Replays w.store.queue (op.ledger w) (op.after w).store.queue := by
  obtain ⟨s, heffect, hleaves⟩ := op.hasEffect w h.tables
  obtain ⟨keep, haccounts⟩ := heffect.accounts h
  have hqueue : (op.after w).store.queue = s.queue := hleaves.store.queue
  have hafter : Accounts w.store (op.report w) (op.after w).store keep :=
    ⟨hqueue.trans haccounts.queue_eq, haccounts.handedOut, haccounts.distinct⟩
  exact hafter.replays h (op.wellFormed_after hnow h).2

end Operation

namespace World

variable {ω : Type}

/-- What a run books. -/
def ledger (w : World ω) : List (Operation ω) → List Entry
  | [] => []
  | op :: ops => op.ledger w ++ ledger (op.after w) ops

/-- A run leads from its first queue to its last one as its ledger says. -/
lemma ledger_replays {w : World ω} (hnow : w.clock.isNaN = false) (h : w.store.WellFormed)
    (ops : List (Operation ω)) :
    Entry.Replays w.store.queue (w.ledger ops) (w.runAll ops).store.queue := by
  induction ops generalizing w with
  | nil => exact .nil _
  | cons op ops ih =>
    have hafter := op.wellFormed_after hnow h
    exact (op.ledger_replays hnow h).append (ih hafter.1 hafter.2)

end World

/-- The fields of a unit of work that have a value, as they are kept in the queue. -/
def Work.keptFields (w : Work) : List (String × Value) := w.toFields.filter fun f => !f.2.isNull

/-- Work is read back as it was written. -/
lemma Work.ofValue_keptFields (w : Work) : Work.ofValue (.ofFields w.keptFields) = .ok w := by
  obtain ⟨_, _, _, _, _, _, project, prompt, provider, source⟩ := w
  cases project <;> cases prompt <;> cases provider <;> cases source <;> rfl

/-- The ledger of a queue that was empty at first and holds some work now shows that work is handed
out exactly once for every time it is inserted. -/
structure ExactlyOnce (es : List Entry) (queue : List Work) : Prop where
  /-- Every insertion is matched by a hand-out, a deletion, or the one entry that is there now. -/
  balance : ∀ sessionId, Entry.insertions sessionId es =
    Entry.handOuts sessionId es + Entry.drops sessionId es +
      if sessionId ∈ queue.map Work.sessionId then 1 else 0
  /-- No session is queued twice. -/
  single : ∀ sessionId, (queue.filter fun w => w.sessionId == sessionId).length ≤ 1
  /-- Between two hand-outs of a session it is inserted again. -/
  between : ∀ es₁ es₂ es₃ v w, es = es₁ ++ .handedOut v :: (es₂ ++ .handedOut w :: es₃) →
    v.sessionId = w.sessionId → .inserted w ∈ es₂
  /-- What is handed out is what was inserted last for its session, queued at a number. -/
  latest : ∀ es₁ es₂ w, es = es₁ ++ .handedOut w :: es₂ → w.queuedAt.isNaN = false ∧
    ∃ before since, es₁ = before ++ .inserted w :: since ∧
      ∀ e ∈ since, e.work.sessionId ≠ w.sessionId

/-- A ledger that can be replayed from an empty queue shows that work is handed out exactly once. -/
lemma Entry.Replays.exactlyOnce {es : List Entry} {queue : List Work} (h : Replays [] es queue) :
    ExactlyOnce es queue where
  balance sessionId := by
    have hnodup := h.nodup List.nodup_nil
    have hbalance := h.balance List.nodup_nil sessionId
    have hfirst : occupancy sessionId [] = 0 := rfl
    have hlast : occupancy sessionId queue =
        if sessionId ∈ queue.map Work.sessionId then 1 else 0 := hnodup.count
    rw [hfirst, hlast] at hbalance
    exact hbalance
  single sessionId := by
    have hcount := List.nodup_iff_count_le_one.1 (h.nodup List.nodup_nil) sessionId
    rwa [List.count_eq_countP, List.countP_map, List.countP_eq_length_filter] at hcount
  between es₁ es₂ es₃ v w heq hsame := by
    rw [heq] at h
    exact h.inserted_between_handOuts hsame
  latest es₁ es₂ w heq := by
    rw [heq] at h
    obtain ⟨before, since, rfl, hsilent⟩ := h.inserted_before_handOut
    exact ⟨h.time (by simp), before, since, rfl, hsilent⟩

namespace World

variable {ω : Type}

/-- In every run from an empty store, of any length and in any order, by any number of workers, work
is handed out exactly once for every time it is inserted, and as it was inserted.  What is kept of
work between the two is enough to read all of it back. -/
theorem exactlyOnce_of_empty {w : World ω} (hempty : w.store = {}) (hnow : w.clock.isNaN = false)
    (ops : List (Operation ω)) :
    ExactlyOnce (w.ledger ops) (w.runAll ops).store.queue ∧
      ∀ work : Work, Work.ofValue (.ofFields work.keptFields) = .ok work := by
  have hreplays := ledger_replays hnow (hempty ▸ Store.WellFormed.new) ops
  rw [hempty] at hreplays
  exact ⟨hreplays.exactlyOnce, Work.ofValue_keptFields⟩

/-- Work of two sessions is queued.  One is claimed, put back and claimed again; the other one is
removed. -/
def busyRun : List (Operation Unit) :=
  [.dispatch (.fixed [] "r") (Tracker.isQuiet_fixed [] "r") (.inBacklog "a") "development",
    .enqueue (StoreBacked.newWork (.inBacklog "b") "t" "qa" 0 none 0), .claimSession "r" "u",
    .requeue (StoreBacked.newWork (.inBacklog "a") "r" "development" 3 none 0) 1,
    .claimSession "r" "v", .removeMatching "t", .claimSession "t" "u"]

/-- In this run the work of the first session is handed out twice, at a better priority the second
time. -/
theorem exactlyOnce_busyRun :
    (fresh.ledger busyRun).filterMap (fun
        | .handedOut w => some (w.sessionId, w.priority)
        | _ => none) = [("r", 3), ("r", 2)] ∧
      ExactlyOnce (fresh.ledger busyRun) (fresh.runAll busyRun).store.queue :=
  ⟨by decide +kernel, (exactlyOnce_of_empty rfl (by decide +kernel) busyRun).1⟩

end World

end IssueDispatch
