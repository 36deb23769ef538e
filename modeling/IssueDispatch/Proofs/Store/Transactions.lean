import IssueDispatch.Proofs.Run
import IssueDispatch.Store.Sessions
import IssueDispatch.Store.Workers

/-!
# Transactions of the store

`Store.Has s ts` says that no table of the list `ts` is missing from the store `s`.  A transaction
fails without any effect when a table it needs is missing, and otherwise it is a function of the
store.  The lemmas below give that function for the transactions that queue work, hand it out and
record sessions, so that later proofs reason about rows and not about the steps of a transaction.
-/

namespace IssueDispatch

/-! ## Rows by their keys -/

section Rows

variable {ρ κ : Type} [DecidableEq κ] (key : ρ → κ) (rows : List ρ)

/-- After the rows of a key have been removed, none is found for it; other keys find what they
found. -/
lemma find?_filter_key (k j : κ) :
    ((rows.filter fun x => key x != k).find? fun x => key x == j) =
      if k = j then none else rows.find? fun x => key x == j := by
  rw [List.find?_filter]
  by_cases hkey : k = j
  · rw [if_pos hkey, List.find?_eq_none]
    intro x _
    by_cases hx : key x = j <;> simp [hx, hkey]
  · rw [if_neg hkey]
    congr 1
    funext x
    by_cases hx : key x = j
    · simp [hx, Ne.symm hkey]
    · simp [hx]

/-- A row that replaces those of its key is the one that is found for it. -/
lemma find?_replaceKey (row : ρ) (j : κ) :
    (((rows.filter fun x => key x != key row) ++ [row]).find? fun x => key x == j) =
      if key row = j then some row else rows.find? fun x => key x == j := by
  rw [List.find?_append, find?_filter_key]
  by_cases hkey : key row = j
  · simp [hkey]
  · simp [hkey]

end Rows

namespace Store

variable {α : Type} {s : Store}

/-! ## Tables that are there -/

/-- None of some tables is missing. -/
def Has (s : Store) (ts : List Table) : Prop := ∀ t ∈ ts, t ∉ s.missing

/-- The tables in which work is kept. -/
def workTables : List Table := [.workQueue, .workClaims, .sessions]

/-- A whole number that a column of the store can hold. -/
def IsStorable (n : Int) : Prop := -(twoPow 63 : Int) ≤ n ∧ n < twoPow 63

instance (n : Int) : Decidable (IsStorable n) := inferInstanceAs (Decidable (_ ∧ _))

/-- The store with some work at the end of its queue. -/
def withWork (s : Store) (w : Work) : Store := { s with queue := s.queue ++ [w] }

/-- The store with a session at the end of its records. -/
def withSession (s : Store) (x : Session) : Store := { s with sessions := s.sessions ++ [x] }

@[simp] lemma withWork_queue (s : Store) (w : Work) : (s.withWork w).queue = s.queue ++ [w] := rfl

@[simp] lemma withSession_sessions (s : Store) (x : Session) :
    (s.withSession x).sessions = s.sessions ++ [x] := rfl

lemma Has.mono {ts us : List Table} (h : s.Has us) (hsub : ts ⊆ us) : s.Has ts :=
  fun t ht => h t (hsub ht)

/-- Tables are there as long as none goes. -/
lemma Has.of_missing_eq {s' : Store} {ts : List Table} (h : s.Has ts)
    (hmissing : s'.missing = s.missing) : s'.Has ts := by
  rw [Has, hmissing]
  exact h

lemma has_of_missing (h : s.missing = []) (ts : List Table) : s.Has ts := by
  intro t _
  rw [h]
  exact List.not_mem_nil

lemma requireTable_of_mem {t : Table} (h : t ∈ s.missing) :
    requireTable t s = .error (.missingTable t.name) := by
  simp [requireTable, h]

lemma requireTable_of_notMem {t : Table} (h : t ∉ s.missing) :
    requireTable t s = .ok ((), s) := by
  simp [requireTable, h]

lemma requireTables_cons (t : Table) (ts : List Table) :
    requireTables (t :: ts) = requireTable t >>= fun _ => requireTables ts := rfl

lemma requireTables_of_has {ts : List Table} (h : s.Has ts) : requireTables ts s = .ok ((), s) := by
  induction ts with
  | nil => rfl
  | cons t ts ih =>
    have ht : t ∉ s.missing := h t (by simp)
    rw [requireTables_cons, Transaction.bind_of_ok (requireTable_of_notMem ht)]
    exact ih (h.mono (List.subset_cons_self t ts))

/-- The first table that is missing is reported. -/
lemma exists_requireTables_eq_error {ts : List Table} (h : ¬ s.Has ts) :
    ∃ t ∈ ts, requireTables ts s = .error (.missingTable t.name) := by
  induction ts with
  | nil => exact absurd (fun _ ht => nomatch ht) h
  | cons t ts ih =>
    by_cases ht : t ∈ s.missing
    · refine ⟨t, by simp, ?_⟩
      rw [requireTables_cons, Transaction.bind_of_error (requireTable_of_mem ht)]
    · have hts : ¬ s.Has ts := fun hts => h fun u hu => by
        rcases List.mem_cons.1 hu with rfl | hu
        · exact ht
        · exact hts u hu
      obtain ⟨u, hu, he⟩ := ih hts
      refine ⟨u, by simp [hu], ?_⟩
      rw [requireTables_cons, Transaction.bind_of_ok (requireTable_of_notMem ht), he]

lemma requireInteger_of_isStorable {n : Int} (h : IsStorable n) :
    requireInteger n s = .ok ((), s) := by
  unfold IsStorable at h
  rw [requireInteger, if_pos h]
  rfl

lemma requireInteger_of_not_isStorable {n : Int} (h : ¬ IsStorable n) :
    requireInteger n s = .error (.outOfRange "integer too large for the store") := by
  unfold IsStorable at h
  rw [requireInteger, if_neg h]
  rfl

lemma requirePriority_of_isStorable {p : Int} (h : IsStorable p) :
    (some p).forM requireInteger s = .ok ((), s) :=
  requireInteger_of_isStorable h

/-- A priority that may be absent is accepted or refused without a change. -/
lemma requirePriority_cases (p? : Option Int) (s : Store) :
    p?.forM requireInteger s = .ok ((), s) ∨ ∃ e, p?.forM requireInteger s = .error e := by
  rcases p? with - | p
  · exact Or.inl rfl
  · by_cases hp : IsStorable p
    · exact Or.inl (requirePriority_of_isStorable hp)
    · exact Or.inr ⟨_, requireInteger_of_not_isStorable hp⟩

/-! ## Reading and changing -/

lemma reading_of_has {ts : List Table} (h : s.Has ts) (f : Store → α) :
    reading ts f s = (.ok (f s), s) := by
  rw [reading, Run.atomically_ok]
  rw [Transaction.bind_of_ok (requireTables_of_has h)]
  rfl

lemma changing_of_has {ts : List Table} (h : s.Has ts) (f : Store → α × Store) :
    changing ts f s = (.ok (f s).1, (f s).2) := by
  rw [changing, Run.atomically_ok]
  rw [Transaction.bind_of_ok (requireTables_of_has h)]
  rfl

/-- Reading gives what it reads or reports a missing table. -/
lemma reading_cases (ts : List Table) (f : Store → α) (s : Store) :
    s.Has ts ∧ reading ts f s = (.ok (f s), s) ∨
      ∃ e, ¬ s.Has ts ∧ reading ts f s = (.error e, s) := by
  by_cases h : s.Has ts
  · exact Or.inl ⟨h, reading_of_has h f⟩
  · obtain ⟨t, -, he⟩ := exists_requireTables_eq_error h
    refine Or.inr ⟨.missingTable t.name, h, ?_⟩
    rw [reading, Run.atomically_error (Transaction.bind_of_error he)]

/-- A change is made as a whole, or a missing table is reported and nothing is changed. -/
lemma changing_cases (ts : List Table) (f : Store → α × Store) (s : Store) :
    s.Has ts ∧ changing ts f s = (.ok (f s).1, (f s).2) ∨
      ∃ e, ¬ s.Has ts ∧ changing ts f s = (.error e, s) := by
  by_cases h : s.Has ts
  · exact Or.inl ⟨h, changing_of_has h f⟩
  · obtain ⟨t, -, he⟩ := exists_requireTables_eq_error h
    refine Or.inr ⟨.missingTable t.name, h, ?_⟩
    rw [changing, Run.atomically_error (Transaction.bind_of_error he)]

lemma changing_of_not_has {ts : List Table} (h : ¬ s.Has ts) (f : Store → α × Store) :
    ∃ e, changing ts f s = (.error e, s) := by
  rcases changing_cases ts f s with ⟨hs, -⟩ | ⟨e, -, he⟩
  · exact absurd hs h
  · exact ⟨e, he⟩

@[simp] lemma reading_snd (ts : List Table) (f : Store → α) (s : Store) :
    (reading ts f s).2 = s := by
  rcases reading_cases ts f s with ⟨-, h⟩ | ⟨_, -, h⟩ <;> rw [h]

lemma reading_keeps {R : Store → Store → Prop} [IsPreorder Store R] (ts : List Table)
    (f : Store → α) : (reading ts f).Keeps R := .of_eq (reading_snd ts f)

lemma changing_keeps {R : Store → Store → Prop} [IsPreorder Store R] (ts : List Table)
    {f : Store → α × Store} (hf : ∀ s, R s (f s).2) : (changing ts f).Keeps R := by
  intro s
  rcases changing_cases ts f s with ⟨-, h⟩ | ⟨_, -, h⟩ <;> rw [h]
  · exact hf s
  · exact refl s

lemma eq_of_requireTable {t : Table} {s' : Store} {u : Unit}
    (h : requireTable t s = .ok (u, s')) : s' = s := by
  by_cases ht : t ∈ s.missing
  · rw [requireTable_of_mem ht] at h
    cases h
  · rw [requireTable_of_notMem ht] at h
    exact (Prod.mk.inj (Except.ok.inj h)).2.symm

lemma eq_of_requireInteger {n : Int} {s' : Store} {u : Unit}
    (h : requireInteger n s = .ok (u, s')) : s' = s := by
  by_cases hn : IsStorable n
  · rw [requireInteger_of_isStorable hn] at h
    exact (Prod.mk.inj (Except.ok.inj h)).2.symm
  · rw [requireInteger_of_not_isStorable hn] at h
    cases h

lemma eq_of_requireTables {ts : List Table} {s' : Store} {u : Unit}
    (h : requireTables ts s = .ok (u, s')) : s' = s := by
  by_cases hs : s.Has ts
  · rw [requireTables_of_has hs] at h
    exact (Prod.mk.inj (Except.ok.inj h)).2.symm
  · obtain ⟨t, -, he⟩ := exists_requireTables_eq_error hs
    rw [he] at h
    cases h

/-- The tables in which work is kept have not changed. -/
structure SameWork (s s' : Store) : Prop where
  missing : s'.missing = s.missing
  queue : s'.queue = s.queue
  claims : s'.claims = s.claims
  sessions : s'.sessions = s.sessions

@[refl] protected lemma SameWork.refl (s : Store) : s.SameWork s := ⟨rfl, rfl, rfl, rfl⟩

instance : IsPreorder Store SameWork where
  refl := .refl
  trans _ _ _ h h' := ⟨h'.missing.trans h.missing, h'.queue.trans h.queue,
    h'.claims.trans h.claims, h'.sessions.trans h.sessions⟩

/-! ## The queue -/

/-- Work that is queued goes to the end of the queue. -/
lemma enqueue_of_has {w : Work} (h : s.Has [.workQueue]) (hw : IsStorable w.priority) :
    enqueue w s =
      if w.queuedAt.isNaN || s.hasQueued w.sessionId then (.ok false, s)
      else (.ok true, s.withWork w) := by
  rw [enqueue, Run.atomically, Transaction.bind_of_ok (requireTable_of_notMem (h _ (by simp))),
    Transaction.bind_of_ok (requireInteger_of_isStorable hw), Transaction.modifyGet_apply]
  by_cases hrefused : (w.queuedAt.isNaN || s.hasQueued w.sessionId) = true
  · rw [if_pos hrefused, if_pos hrefused]
  · rw [if_neg hrefused, if_neg hrefused]
    rfl

/-- Queueing work either puts it at the end of a queue that has no entry of its session, or changes
nothing.  Only a priority that does not fit is refused with a fault that is not one of the store. -/
lemma enqueue_cases (w : Work) (s : Store) :
    (s.Has [.workQueue] ∧ w.queuedAt.isNaN = false ∧ s.hasQueued w.sessionId = false ∧
        enqueue w s = (.ok true, s.withWork w)) ∨
      enqueue w s = (.ok false, s) ∨
      ∃ e, (IsStorable w.priority → e.isStoreFault = true) ∧ enqueue w s = (.error e, s) := by
  by_cases ht : Table.workQueue ∈ s.missing
  · refine Or.inr (Or.inr ⟨.missingTable Table.workQueue.name, fun _ => rfl, ?_⟩)
    rw [enqueue, Run.atomically_error (Transaction.bind_of_error (requireTable_of_mem ht))]
  have hs : s.Has [.workQueue] := by simpa [Has] using ht
  by_cases hw : IsStorable w.priority
  · rw [enqueue_of_has hs hw]
    split
    · exact Or.inr (Or.inl rfl)
    · rename_i hfree
      simp only [Bool.or_eq_true, not_or, Bool.not_eq_true] at hfree
      exact Or.inl ⟨hs, hfree.1, hfree.2, rfl⟩
  · refine Or.inr (Or.inr ⟨.outOfRange "integer too large for the store", fun h => absurd h hw, ?_⟩)
    rw [enqueue, Run.atomically_error]
    rw [Transaction.bind_of_ok (requireTable_of_notMem ht),
      Transaction.bind_of_error (requireInteger_of_not_isStorable hw)]

/-- A claim of given work hands it out. -/
lemma handOut?_of_has (h : s.Has workTables) (w? : Option Work) (worker : String)
    (now : Binary64) :
    handOut? w? worker now s =
      .ok (w?, w?.elim s fun w => s.handOut w.sessionId worker now) := by
  cases w? with
  | none => rfl
  | some w =>
    have hs : s.Has [.workClaims, .sessions] := h.mono (by simp [workTables])
    simp only [handOut?]
    rw [Transaction.bind_of_ok (requireTables_of_has hs)]
    rfl

/-- A claim hands out the first work that the worker may have. -/
lemma claim_of_has (h : s.Has workTables) (worker : String) (projects : Option (List String))
    (now : Binary64) :
    claim worker projects now s =
      (.ok (s.eligible projects).head?,
        (s.eligible projects).head?.elim s fun w => s.handOut w.sessionId worker now) := by
  have hs : Table.workQueue ∉ s.missing := h _ (by simp [workTables])
  rw [claim, Run.atomically_ok]
  rw [Transaction.bind_of_ok (requireTable_of_notMem hs),
    Transaction.bind_of_ok (Transaction.get_apply s), handOut?_of_has h]

/-- A claim of a session hands out the work of that session. -/
lemma claimSession_of_has (h : s.Has workTables) (sessionId worker : String) (now : Binary64) :
    claimSession sessionId worker now s =
      (.ok (s.queue.find? fun w => w.sessionId == sessionId),
        (s.queue.find? fun w => w.sessionId == sessionId).elim s
          fun w => s.handOut w.sessionId worker now) := by
  have hs : Table.workQueue ∉ s.missing := h _ (by simp [workTables])
  rw [claimSession, Run.atomically_ok]
  rw [Transaction.bind_of_ok (requireTable_of_notMem hs),
    Transaction.bind_of_ok (Transaction.get_apply s), handOut?_of_has h]

/-- Putting work back gives up its claim and then queues it. -/
lemma requeue_of_has (h : s.Has [.workClaims, .sessions]) (w : Work) (boost : Int)
    (now : Binary64) :
    requeue w boost now s =
      enqueue (w.boosted boost now)
        ((s.unmark w.sessionId).updateSession w.sessionId (·.backToPending now)) := by
  rw [requeue, Run.bind_of_ok (changing_of_has h _)]

/-! ## Sessions -/

/-- A known status is recorded with the worker and the error that are given. -/
lemma updateStatus_of_has (h : s.Has [.sessions]) (sessionId : String) {status : SessionStatus}
    (hknown : status.isKnown = true) (worker error : Option String) (now : Binary64) :
    updateStatus sessionId status worker error now s =
      (.ok (s.findSession sessionId).isSome, s.updateSession sessionId fun x =>
        { x with
          status
          workerId := worker <|> x.workerId
          error := error <|> x.error
          updatedAt := now }) := by
  rw [updateStatus, hknown]
  exact changing_of_has h _

/-- The record that has just been put at the end of the table is the one that is found. -/
lemma getSession_withSession (h : s.Has [.sessions]) {x : Session}
    (hnew : s.findSession x.sessionId = none) :
    getSession x.sessionId (s.withSession x) = (.ok (some x), s.withSession x) := by
  have hfound : (s.withSession x).findSession x.sessionId = some x := by
    rw [findSession, withSession_sessions, List.find?_append,
      show s.sessions.find? _ = none from hnew]
    simp
  have hs : (s.withSession x).Has [.sessions] := h
  rw [getSession, reading_of_has hs, hfound]

/-- A session of an idle issue is recorded at the end of the table if its identifier is new. -/
lemma createIfIdle_of_idle {n : NewSession} {now : Binary64} (h : s.Has [.sessions])
    (hidle : s.isBusy n.issueId = false) (hnew : s.findSession n.sessionId = none)
    (hstored : n.priority.forM requireInteger s = .ok ((), s)) :
    createIfIdle n now s =
      (.ok (some (n.toSession .pending now)), s.withSession (n.toSession .pending now)) := by
  have hread := Transaction.get_apply s
  rw [createIfIdle, Run.bind_of_ok (Run.atomically_ok
    (?_ : _ = Except.ok (true, s.withSession (n.toSession .pending now))))]
  · exact getSession_withSession h hnew
  · rw [Transaction.bind_of_ok (requireTable_of_notMem (h _ (by simp))),
      Transaction.bind_of_ok hread, if_neg (Bool.eq_false_iff.1 hidle),
      Transaction.bind_of_ok hstored, Transaction.bind_of_ok hread, hnew]
    rfl

/-- No session of a busy issue is recorded. -/
lemma createIfIdle_of_busy {n : NewSession} {now : Binary64} (h : s.Has [.sessions])
    (hbusy : s.isBusy n.issueId = true) : createIfIdle n now s = (.ok none, s) := by
  rw [createIfIdle, Run.bind_of_ok (Run.atomically_ok (?_ : _ = Except.ok (false, s)))]
  · rfl
  · rw [Transaction.bind_of_ok (requireTable_of_notMem (h _ (by simp))),
      Transaction.bind_of_ok (Transaction.get_apply s), if_pos hbusy]
    rfl

/-- A session is recorded at the end of the table if its issue is idle and its identifier is new;
otherwise nothing is changed. -/
lemma createIfIdle_cases (n : NewSession) (now : Binary64) (s : Store) :
    (s.Has [.sessions] ∧ s.isBusy n.issueId = false ∧ s.findSession n.sessionId = none ∧
        createIfIdle n now s =
          (.ok (some (n.toSession .pending now)), s.withSession (n.toSession .pending now))) ∨
      (s.isBusy n.issueId = true ∧ createIfIdle n now s = (.ok none, s)) ∨
      ∃ e, createIfIdle n now s = (.error e, s) := by
  by_cases ht : Table.sessions ∈ s.missing
  · refine Or.inr (Or.inr ⟨.missingTable Table.sessions.name, ?_⟩)
    rw [createIfIdle, Run.bind_of_error]
    rw [Run.atomically_error (Transaction.bind_of_error (requireTable_of_mem ht))]
  have hs : s.Has [.sessions] := by simpa [Has] using ht
  have hthere := requireTable_of_notMem ht
  have hread := Transaction.get_apply s
  by_cases hbusy : s.isBusy n.issueId = true
  · exact Or.inr (Or.inl ⟨hbusy, createIfIdle_of_busy hs hbusy⟩)
  rcases requirePriority_cases n.priority s with hstored | ⟨e, hrefused⟩
  · rcases hnew : s.findSession n.sessionId with - | x
    · have hidle : s.isBusy n.issueId = false := Bool.eq_false_iff.2 hbusy
      exact Or.inl ⟨hs, hidle, rfl, createIfIdle_of_idle hs hidle hnew hstored⟩
    · refine Or.inr (Or.inr ⟨.duplicateKey "sessions.session_id", ?_⟩)
      rw [createIfIdle, Run.bind_of_error (Run.atomically_error ?_)]
      rw [Transaction.bind_of_ok hthere, Transaction.bind_of_ok hread, if_neg hbusy,
        Transaction.bind_of_ok hstored, Transaction.bind_of_ok hread, hnew]
      rfl
  · refine Or.inr (Or.inr ⟨e, ?_⟩)
    rw [createIfIdle, Run.bind_of_error (Run.atomically_error ?_)]
    rw [Transaction.bind_of_ok hthere, Transaction.bind_of_ok hread, if_neg hbusy,
      Transaction.bind_of_error hrefused]

end Store

end IssueDispatch
