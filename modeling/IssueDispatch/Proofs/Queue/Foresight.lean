import IssueDispatch.Proofs.Number.Rounding
import IssueDispatch.Proofs.Sorting
import IssueDispatch.Proofs.Store.Transactions
import Mathlib.Data.List.Nodup

/-!
# Peeks foretell claims

A peek reads a batch of the queue in one query; claims take the work out one piece at a time, each
in a transaction of its own.  Both look for the same work in the same order, so a peek tells what
the next claims hand out (`Store.peek_foretells_claims`), whoever makes them.

The order of claims (`Store.ClaimedBefore`) goes by the priority, then by the time of queueing, and
then by the place in the queue.  Its first two parts are what the query sorts by; the third one is
there because the sort is stable.  A claim removes the first entry of the sorted list, and removing
an entry commutes with sorting, so that the rest of the list is what the next claim sees.
-/

namespace IssueDispatch

/-- Whether work may go to a worker of some projects: it has no project or one of those.  A worker
without a list of projects may have everything. -/
def Work.MayGoTo (projects : Option (List String)) (w : Work) : Prop :=
  ∀ names ∈ projects, ∀ name ∈ w.projectName, name ∈ names

namespace Store

variable {s s' : Store} {projects : Option (List String)} {n : Nat}

/-- Work of the queue comes before other work in the order of claims: by its priority, then by the
time at which it was queued, and then by its place in the queue. -/
def ClaimedBefore (s : Store) (a b : Work) : Prop :=
  a.priority < b.priority ∨ a.priority = b.priority ∧
    (a.queuedAt < b.queuedAt ∨ a.queuedAt ≤ b.queuedAt ∧ b.queuedAt ≤ a.queuedAt ∧
      s.queue.idxOf a < s.queue.idxOf b)

/-- The next pieces of work for a worker of some projects, but no more than a number of them. -/
structure AreNext (s : Store) (projects : Option (List String)) (n : Nat) (ws : List Work) :
    Prop where
  queued : ∀ w ∈ ws, w ∈ s.queue
  mayGo : ∀ w ∈ ws, w.MayGoTo projects
  increasing : ws.Pairwise s.ClaimedBefore
  least : ∀ w ∈ s.queue, w.MayGoTo projects → w ∉ ws → ∀ v ∈ ws, s.ClaimedBefore v w
  length_le : ws.length ≤ n
  exhaustive : ws.length < n → ∀ w ∈ s.queue, w.MayGoTo projects → w ∈ ws

/-- Nothing has happened but that the work of some sessions was handed out: it has left the queue,
and the rows of all other sessions are as they were. -/
structure OnlyHandsOut (s : Store) (ids : List String) (s' : Store) : Prop where
  queue : s'.queue = s.queue.filter fun w => w.sessionId ∉ ids
  claims : (s'.claims.filter fun c => c.sessionId ∉ ids) =
    s.claims.filter fun c => c.sessionId ∉ ids
  sessions : (s'.sessions.filter fun x => x.sessionId ∉ ids) =
    s.sessions.filter fun x => x.sessionId ∉ ids
  rest : s' = { s with queue := s'.queue, claims := s'.claims, sessions := s'.sessions }

/-- The queue is as insertions build it: no session stands in it twice, and all work was queued at a
time. -/
structure HasBuiltQueue (s : Store) : Prop where
  ids : (s.queue.map Work.sessionId).Nodup
  times : ∀ w ∈ s.queue, w.queuedAt.isNaN = false

/-! ## Insertions -/

/-- A queue that is as insertions build it stays so. -/
def KeepsBuiltQueue (s s' : Store) : Prop := s.HasBuiltQueue → s'.HasBuiltQueue

instance : IsPreorder Store KeepsBuiltQueue where
  refl _ := id
  trans _ _ _ h h' := h' ∘ h

/-- How a queue has been built is seen from the queue alone. -/
lemma HasBuiltQueue.of_queue_eq (h : s.HasBuiltQueue) (hqueue : s'.queue = s.queue) :
    s'.HasBuiltQueue where
  ids := by rw [hqueue]; exact h.ids
  times := by rw [hqueue]; exact h.times

/-- Work of a session that is not in the queue may be put at its end, if it was queued at a time. -/
lemma HasBuiltQueue.withWork (h : s.HasBuiltQueue) {w : Work}
    (hfree : s.hasQueued w.sessionId = false) (htime : w.queuedAt.isNaN = false) :
    (s.withWork w).HasBuiltQueue := by
  have hnew : w.sessionId ∉ s.queue.map Work.sessionId := by simpa [hasQueued] using hfree
  constructor
  · rw [withWork_queue, List.map_append, List.map_singleton, ← List.concat_eq_append]
    exact h.ids.concat hnew
  · intro v hv
    rw [withWork_queue, List.mem_append, List.mem_singleton] at hv
    rcases hv with hv | rfl
    · exact h.times v hv
    · exact htime

/-- An insertion puts work at the end of a queue that has no work of its session, and only if it was
queued at a time; otherwise it changes nothing. -/
lemma enqueue_keepsBuiltQueue (w : Work) : (enqueue w).Keeps KeepsBuiltQueue := by
  intro s h
  rcases enqueue_cases w s with ⟨-, htime, hfree, hrun⟩ | hrun | ⟨e, -, hrun⟩ <;> rw [hrun]
  · exact h.withWork hfree htime
  · exact h
  · exact h

/-- Insertions into an empty queue build it, whether they succeed or not. -/
lemma hasBuiltQueue_of_insertions (hempty : s.queue = []) (ws : List Work) :
    (ws.mapM (fun w => Run.attempt (enqueue w)) s).2.HasBuiltQueue := by
  have hbuilt : s.HasBuiltQueue := by
    constructor <;> simp [hempty]
  exact Run.Keeps.mapM (fun w _ => (enqueue_keepsBuiltQueue w).attempt) s hbuilt

/-! ## The order of claims -/

lemma mayGoTo_iff {w : Work} : w.MayGoTo projects ↔ w.isEligible projects = true := by
  unfold Work.MayGoTo Work.isEligible
  cases projects <;> cases w.projectName <;> simp

lemma mem_eligible {w : Work} :
    w ∈ s.eligible projects ↔ w ∈ s.queue ∧ w.MayGoTo projects := by
  rw [eligible, List.mem_mergeSort, List.mem_filter, mayGoTo_iff]

/-- No session stands twice in the work that may go to a worker. -/
lemma nodup_eligible (hids : (s.queue.map Work.sessionId).Nodup)
    (projects : Option (List String)) : ((s.eligible projects).map Work.sessionId).Nodup := by
  have hperm : (s.eligible projects).Perm (s.queue.filter (·.isEligible projects)) :=
    List.mergeSort_perm _ _
  exact (hperm.map _).nodup_iff.2 (hids.sublist (List.filter_sublist.map _))

/-- Where the time at which work was queued lies on the line of numbers. -/
def place (w : Work) : Int := w.queuedAt.key?.getD 0

/-- The order of claims as far as the query knows it, for work that was queued at a time. -/
def placeLe (a b : Work) : Bool :=
  decide (a.priority < b.priority) || (a.priority == b.priority && decide (place a ≤ place b))

lemma placeLe_iff {a b : Work} : placeLe a b = true ↔
    a.priority < b.priority ∨ a.priority = b.priority ∧ place a ≤ place b := by
  simp [placeLe]

lemma placeLe_trans (a b c : Work) (hab : placeLe a b = true) (hbc : placeLe b c = true) :
    placeLe a c = true := by
  rw [placeLe_iff] at *
  omega

lemma placeLe_total (a b : Work) : (placeLe a b || placeLe b a) = true := by
  rw [Bool.or_eq_true, placeLe_iff, placeLe_iff]
  omega

lemma key?_of_isNaN {w : Work} (h : w.queuedAt.isNaN = false) :
    w.queuedAt.key? = some (place w) := by
  obtain ⟨i, hi⟩ := Binary64.exists_key_of_isNaN h
  rw [place, hi]
  rfl

section Queue

variable (htimes : ∀ w ∈ s.queue, w.queuedAt.isNaN = false)

include htimes

/-- Times that are numbers are compared as their places on the line are. -/
lemma eligible_eq_mergeSort (projects : Option (List String)) :
    s.eligible projects = (s.queue.filter (·.isEligible projects)).mergeSort placeLe := by
  have hmem (w : Work) (hw : w ∈ s.queue.filter (·.isEligible projects)) :
      w.queuedAt.key? = some (place w) := key?_of_isNaN (htimes w (List.mem_filter.1 hw).1)
  have hmap := List.map_mergeSort (f := id) (l := s.queue.filter (·.isEligible projects))
    (r := Work.claimLe) (s := placeLe) fun a ha b hb => by
      rw [Work.claimLe, Binary64.le, hmem a ha, hmem b hb]
      rfl
  simpa [eligible] using hmap

/-- The work that may go to a worker is sorted in the order of claims. -/
lemma eligible_pairwise (hids : (s.queue.map Work.sessionId).Nodup)
    (projects : Option (List String)) : (s.eligible projects).Pairwise s.ClaimedBefore := by
  have hnodup : s.queue.Nodup := hids.of_map
  have hplaces : s.queue.Pairwise fun a b => s.queue.idxOf a < s.queue.idxOf b := by
    refine List.pairwise_iff_getElem.2 fun i j hi hj hij => ?_
    rwa [hnodup.idxOf_getElem i hi, hnodup.idxOf_getElem j hj]
  have hsorted := Sorting.pairwise_mergeSort_stable placeLe_trans placeLe_total
    (hplaces.filter (·.isEligible projects))
  rw [← eligible_eq_mergeSort htimes] at hsorted
  refine hsorted.imp_of_mem fun {a b} ha hb ⟨hle, hlisted⟩ => ?_
  have hkeyA := key?_of_isNaN (htimes a (mem_eligible.1 ha).1)
  have hkeyB := key?_of_isNaN (htimes b (mem_eligible.1 hb).1)
  rw [placeLe_iff] at hle hlisted
  rw [ClaimedBefore, Binary64.lt_iff_of_key hkeyA hkeyB, Binary64.le_iff_of_key hkeyA hkeyB,
    Binary64.le_iff_of_key hkeyB hkeyA]
  rcases hle with hlower | ⟨hsame, hle⟩
  · exact Or.inl hlower
  · rcases Int.lt_or_eq_of_le hle with hearlier | htied
    · exact Or.inr ⟨hsame, Or.inl hearlier⟩
    · have hindex := hlisted (Or.inr ⟨hsame.symm, Int.le_of_eq htied.symm⟩)
      exact Or.inr ⟨hsame, Or.inr ⟨hle, Int.le_of_eq htied.symm, hindex⟩⟩

/-- The first entries of the sorted list are the next pieces of work. -/
lemma areNext_take (hids : (s.queue.map Work.sessionId).Nodup)
    (projects : Option (List String)) (n : Nat) :
    s.AreNext projects n ((s.eligible projects).take n) := by
  have hsorted := eligible_pairwise htimes hids projects
  have hmem {w : Work} (hw : w ∈ (s.eligible projects).take n) :=
    mem_eligible.1 (List.mem_of_mem_take hw)
  rw [← List.take_append_drop n (s.eligible projects), List.pairwise_append] at hsorted
  obtain ⟨hincreasing, -, hacross⟩ := hsorted
  refine ⟨fun w hw => (hmem hw).1, fun w hw => (hmem hw).2, hincreasing, ?_, ?_, ?_⟩
  · intro w hw hgo hlater v hv
    have hlisted : w ∈ s.eligible projects := mem_eligible.2 ⟨hw, hgo⟩
    rw [← List.take_append_drop n (s.eligible projects), List.mem_append] at hlisted
    exact hacross v hv w (hlisted.resolve_left hlater)
  · exact List.length_take_le n _
  · intro hshort w hw hgo
    rw [List.length_take] at hshort
    rw [List.take_of_length_le (by omega)]
    exact mem_eligible.2 ⟨hw, hgo⟩

/-- When the first piece of work has been handed out, the others are what is left. -/
lemma eligible_handOut (hids : (s.queue.map Work.sessionId).Nodup) {w : Work} {ws : List Work}
    (h : s.eligible projects = w :: ws) (worker : String) (now : Binary64) :
    (s.handOut w.sessionId worker now).eligible projects = ws := by
  have hothers : ∀ v ∈ (s.handOut w.sessionId worker now).queue, v.queuedAt.isNaN = false :=
    fun v hv => htimes v (List.mem_filter.1 hv).1
  have hnodup := nodup_eligible hids projects
  rw [h, List.map_cons, List.nodup_cons] at hnodup
  have hkept : ws.filter (fun v => v.sessionId != w.sessionId) = ws := by
    refine List.filter_eq_self.2 fun v hv => bne_iff_ne.2 fun hsame => hnodup.1 ?_
    exact List.mem_map.2 ⟨v, hv, hsame⟩
  calc (s.handOut w.sessionId worker now).eligible projects
      = ((s.queue.filter fun v => v.sessionId != w.sessionId).filter
          (·.isEligible projects)).mergeSort placeLe := eligible_eq_mergeSort hothers projects
    _ = ((s.queue.filter (·.isEligible projects)).filter
          fun v => v.sessionId != w.sessionId).mergeSort placeLe := by
        rw [List.filter_filter, List.filter_filter]
        simp only [Bool.and_comm]
    _ = (s.eligible projects).filter fun v => v.sessionId != w.sessionId := by
        rw [eligible_eq_mergeSort htimes,
          Sorting.filter_mergeSort_comm placeLe_trans placeLe_total]
    _ = ws := by
        rw [h, List.filter_cons_of_neg (by simp), hkept]

end Queue

/-! ## What claims leave behind -/

namespace OnlyHandsOut

protected lemma refl (s : Store) : s.OnlyHandsOut [] s := by
  constructor <;> simp

/-- Rows outside a longer list of sessions are those outside both of its parts. -/
lemma filter_notMem_append {ρ : Type} (key : ρ → String) (ids ids' : List String)
    (rows : List ρ) :
    (rows.filter fun x => key x ∉ ids ++ ids') =
      (rows.filter fun x => key x ∉ ids).filter fun x => key x ∉ ids' := by
  rw [List.filter_filter]
  refine List.filter_congr fun x _ => ?_
  by_cases h : key x ∈ ids <;> by_cases h' : key x ∈ ids' <;> simp [h, h']

protected lemma trans {t : Store} {ids ids' : List String} (h : s.OnlyHandsOut ids t)
    (h' : t.OnlyHandsOut ids' s') : s.OnlyHandsOut (ids ++ ids') s' := by
  have hrows {ρ : Type} {key : ρ → String} {xs ys zs : List ρ}
      (hxy : (ys.filter fun x => key x ∉ ids) = xs.filter fun x => key x ∉ ids)
      (hyz : (zs.filter fun x => key x ∉ ids') = ys.filter fun x => key x ∉ ids') :
      (zs.filter fun x => key x ∉ ids ++ ids') = xs.filter fun x => key x ∉ ids ++ ids' :=
    calc (zs.filter fun x => key x ∉ ids ++ ids')
        = (zs.filter fun x => key x ∉ ids').filter fun x => key x ∉ ids := by
          rw [filter_notMem_append, List.filter_comm]
      _ = (ys.filter fun x => key x ∉ ids).filter fun x => key x ∉ ids' := by
          rw [hyz, List.filter_comm]
      _ = xs.filter fun x => key x ∉ ids ++ ids' := by rw [hxy, filter_notMem_append]
  refine ⟨?_, hrows h.claims h'.claims, hrows h.sessions h'.sessions, ?_⟩
  · rw [h'.queue, h.queue, filter_notMem_append]
  · have hrest := h'.rest
    rw [h.rest] at hrest
    exact hrest

/-- A session that is handed out leaves the rows of the others alone. -/
lemma handOut (s : Store) (sessionId worker : String) (now : Binary64) :
    s.OnlyHandsOut [sessionId] (s.handOut sessionId worker now) where
  queue := by
    refine List.filter_congr fun w _ => ?_
    simp [bne, Bool.beq_eq_decide_eq]
  claims := by
    have hmarker : ([⟨sessionId, worker, now⟩] : List Claim).filter
        (fun c => c.sessionId ∉ [sessionId]) = [] := by simp
    simp only [Store.handOut, unqueue, unmark, updateSession]
    rw [List.filter_append, hmarker, List.append_nil, List.filter_filter]
    refine List.filter_congr fun c _ => ?_
    by_cases hid : c.sessionId = sessionId <;> simp [hid]
  sessions := by
    let change (x : Session) : Session :=
      if x.sessionId == sessionId then x.claimBy worker now else x
    have hids (x : Session) : (change x).sessionId = x.sessionId := by
      dsimp only [change]
      split <;> rfl
    have hothers (x : Session) (hx : x ∈ s.sessions.filter fun x => x.sessionId ∉ [sessionId]) :
        change x = x := by
      have hne : x.sessionId ≠ sessionId := by simpa using (List.mem_filter.1 hx).2
      exact if_neg (by simpa using hne)
    calc ((s.sessions.map change).filter fun x => x.sessionId ∉ [sessionId])
        = (s.sessions.filter fun x => x.sessionId ∉ [sessionId]).map change := by
          rw [List.filter_map]
          simp only [Function.comp_def, hids]
      _ = s.sessions.filter fun x => x.sessionId ∉ [sessionId] := by
          rw [List.map_congr_left hothers, List.map_id']
  rest := rfl

end OnlyHandsOut

/-! ## Claims one after the other -/

/-- Claims by several workers of the same projects hand out the work that may go to them, one piece
each from the first one on, and then nothing. -/
lemma claims_eq (htables : s.Has workTables) (hids : (s.queue.map Work.sessionId).Nodup)
    (htimes : ∀ w ∈ s.queue, w.queuedAt.isNaN = false)
    (callers : List (String × Binary64)) :
    ∃ s', callers.mapM (fun c => claim c.1 projects c.2) s =
        (.ok (((s.eligible projects).take callers.length).map some ++
          List.replicate (callers.length - (s.eligible projects).length) none), s') ∧
      s.OnlyHandsOut (((s.eligible projects).take callers.length).map Work.sessionId) s' := by
  induction callers generalizing s with
  | nil => exact ⟨s, by simp, by simpa using OnlyHandsOut.refl s⟩
  | cons c callers ih =>
    have hclaim := claim_of_has htables c.1 projects c.2
    rcases hnext : s.eligible projects with - | ⟨w, ws⟩
    · rw [hnext] at hclaim
      obtain ⟨s', hrest, hleft⟩ := ih htables hids htimes
      rw [hnext] at hrest hleft
      refine ⟨s', ?_, by simpa using hleft⟩
      rw [List.mapM_cons, Run.bind_of_ok hclaim]
      refine (Run.bind_of_ok hrest).trans ?_
      simp [List.replicate_succ]
    · rw [hnext] at hclaim
      obtain ⟨s', hrest, hleft⟩ := ih (s := s.handOut w.sessionId c.1 c.2) htables
        (hids.sublist (List.filter_sublist.map _))
        fun v hv => htimes v (List.mem_filter.1 hv).1
      rw [eligible_handOut htimes hids hnext] at hrest hleft
      refine ⟨s', ?_, ?_⟩
      · rw [List.mapM_cons, Run.bind_of_ok hclaim]
        refine (Run.bind_of_ok hrest).trans ?_
        simp
      · simpa using (OnlyHandsOut.handOut s w.sessionId c.1 c.2).trans hleft

/-- A peek gives the first entries of what may go to a worker. -/
lemma peek_of_has (h : s.Has [.workQueue]) (hn : IsStorable n)
    (projects : Option (List String)) :
    peek n projects s = (.ok ((s.eligible projects).take n), s) := by
  have hs : Table.workQueue ∉ s.missing := h _ (by simp)
  have hpositive : ¬ (n : Int) < 0 := by omega
  rw [peek, Run.atomically_ok]
  rw [Transaction.bind_of_ok (requireTable_of_notMem hs),
    Transaction.bind_of_ok (requireInteger_of_isStorable hn),
    Transaction.bind_of_ok (Transaction.get_apply s)]
  simp [hpositive]

/-! ## Peeks and claims -/

/-- A peek at a number of entries gives the next pieces of work in the order of claims, and the same
number of claims hands out exactly these, one after the other, and then nothing.  No other row is
touched.  The claims may be made by any workers at any times. -/
theorem peek_foretells_claims (htables : s.Has workTables) (hbuilt : s.HasBuiltQueue)
    (hn : IsStorable n) (projects : Option (List String)) :
    ∃ ws, peek n projects s = (.ok ws, s) ∧ s.AreNext projects n ws ∧
      ∀ callers : List (String × Binary64), callers.length = n →
        ∃ s', callers.mapM (fun c => claim c.1 projects c.2) s =
            (.ok (ws.map some ++ List.replicate (n - ws.length) none), s') ∧
          s.OnlyHandsOut (ws.map Work.sessionId) s' := by
  have hqueue : s.Has [.workQueue] := htables.mono (by simp [workTables])
  refine ⟨(s.eligible projects).take n, peek_of_has hqueue hn projects,
    areNext_take hbuilt.times hbuilt.ids projects n, ?_⟩
  rintro callers rfl
  have hnothing : callers.length - ((s.eligible projects).take callers.length).length =
      callers.length - (s.eligible projects).length := by
    rw [List.length_take]
    omega
  rw [hnothing]
  exact claims_eq htables hbuilt.ids hbuilt.times callers

/-- Work of a project, or of none, that was queued at a time. -/
def workQueuedAt (sessionId : String) (priority : Int) (queuedAt : Binary64)
    (projectName : Option String) : Work where
  sessionId
  issueId := sessionId
  issueIdentifier := sessionId
  priority
  queuedAt
  workType := "development"
  projectName

/-- Four pieces of work.  Two of them that may go to one project are queued at one time with one
priority. -/
def mixedWork : List Work :=
  [workQueuedAt "a" 1 0 none, workQueuedAt "b" 0 5 (some "p"), workQueuedAt "c" 1 0 (some "q"),
    workQueuedAt "d" 1 0 (some "p")]

/-- The store into which they have been inserted one after the other. -/
def mixed : Store := (mixedWork.mapM (fun w => Run.attempt (enqueue w)) {}).2

theorem peek_foretells_claims_mixed :
    mixed.queue = mixedWork ∧ mixed.HasBuiltQueue ∧
      ∃ ws, peek 5 (some ["p"]) mixed = (.ok ws, mixed) ∧ mixed.AreNext (some ["p"]) 5 ws ∧
        ∀ callers : List (String × Binary64), callers.length = 5 →
          ∃ s', callers.mapM (fun c => claim c.1 (some ["p"]) c.2) mixed =
              (.ok (ws.map some ++ List.replicate (5 - ws.length) none), s') ∧
            mixed.OnlyHandsOut (ws.map Work.sessionId) s' := by
  have hbuilt : mixed.HasBuiltQueue := hasBuiltQueue_of_insertions rfl mixedWork
  have htables : mixed.Has workTables := has_of_missing (by decide +kernel) workTables
  exact ⟨by decide +kernel, hbuilt,
    peek_foretells_claims htables hbuilt (by decide) (some ["p"])⟩

/-- A store with a single piece of work in its queue. -/
def single : Store := { queue := [workQueuedAt "a" 1 0 none] }

/-- A peek at more entries than a column of the store can count is refused, although a claim hands
work out. -/
theorem peek_refused_of_two_pow_63 :
    peek (twoPow 63 : Nat) none single =
        (.error (.outOfRange "integer too large for the store"), single) ∧
      (claim "w" none 0 single).1 = .ok (some (workQueuedAt "a" 1 0 none)) := by
  constructor
  · have hlarge : ¬ IsStorable (twoPow 63 : Nat) := by decide
    have hqueue : Table.workQueue ∉ single.missing := List.not_mem_nil
    rw [peek, Run.atomically_error]
    rw [Transaction.bind_of_ok (requireTable_of_notMem hqueue),
      Transaction.bind_of_error (requireInteger_of_not_isStorable hlarge)]
  · have heligible : single.eligible none = [workQueuedAt "a" 1 0 none] :=
      List.mergeSort_singleton _
    rw [claim_of_has (has_of_missing rfl workTables), heligible]
    rfl

end Store

end IssueDispatch
