import IssueDispatch.Proofs.Number.Summation
import IssueDispatch.Proofs.Queue.WellFormed
import IssueDispatch.Proofs.Standard

/-!
# What sessions and issues have cost

The costs of an agent are recorded on its session, one expense after the other, while governors,
workers and administrators go on to rewrite the same records.  `Store.AccountsFor` says that no
expense is lost on the way: what a record tells is what its own expenses add up to, and what an
issue has cost is what the expenses of its sessions add up to.

As far as costs are concerned a record is an `Account`.  A call keeps all accounts, opens a new one
or adds an expense to one of them (`Posts`), and `Balanced` is what this keeps: every account is
what the expenses so far have made of a new one.  Sums are taken last, over accounts that are known
to be balanced, so that rounding matters nowhere else.
-/

namespace IssueDispatch

open Binary64 (AddExactly exactSum)

/-! ## Expenses and accounts -/

/-- What is to be recorded as the costs of a session. -/
structure Expense where
  sessionId : String
  cost : Binary64
  inputTokens : Int := 0
  outputTokens : Int := 0
deriving DecidableEq

/-- Records an expense. -/
def Store.record (e : Expense) (now : Binary64) : Run Store Bool :=
  recordCost e.sessionId e.cost e.inputTokens e.outputTokens now

/-- An expense that has been recorded, and the issue of its session. -/
structure Charge extends Expense where
  issueId : String
deriving DecidableEq

/-- What the record of a session tells about its costs. -/
structure Account where
  sessionId : String
  issueId : String
  cost : Binary64 := 0
  inputTokens : Number := 0
  outputTokens : Number := 0

/-- The account of a session that has cost nothing yet. -/
def Account.opening (sessionId issueId : String) : Account := { sessionId, issueId }

/-- The account of a session. -/
def Session.account (x : Session) : Account :=
  ⟨x.sessionId, x.issueId, x.totalCost, x.inputTokens, x.outputTokens⟩

/-- The accounts of all sessions. -/
def Store.accounts (s : Store) : List Account := s.sessions.map Session.account

/-- The account after an expense, which may be one of another session. -/
def Account.charge (a : Account) (e : Expense) : Account :=
  if a.sessionId = e.sessionId then
    { a with
      cost := a.cost + e.cost
      inputTokens := Store.addCount a.inputTokens e.inputTokens
      outputTokens := Store.addCount a.outputTokens e.outputTokens }
  else a

namespace Account

variable (a : Account) (e : Expense)

@[simp] lemma charge_sessionId : (a.charge e).sessionId = a.sessionId := by
  unfold charge
  split <;> rfl

@[simp] lemma charge_issueId : (a.charge e).issueId = a.issueId := by
  unfold charge
  split <;> rfl

lemma charge_of_ne {a : Account} {e : Expense} (h : a.sessionId ≠ e.sessionId) :
    a.charge e = a := if_neg h

end Account

/-! ## Calls -/

/-- A call that may write to the records of sessions: an operation on the queue, other than the
removal of sessions, or a call of the session store. -/
inductive SessionCall (ω : Type) where
  | work (op : Operation ω) (keeps : ∀ part, op ≠ .removeMatching part)
  | createIfIdle (session : Store.NewSession)
  | setProvider (sessionId providerSessionId : String)
  | recordCost (expense : Expense)

namespace SessionCall

variable {ω : Type}

/-- Performs a call, and says whether it has recorded an expense. -/
def run : SessionCall ω → Run (World ω) Bool
  | work op _ => do
    let _ ← op.run
    return false
  | createIfIdle session => do
    let _ ← World.onStoreNow (Store.createIfIdle session)
    return false
  | setProvider sessionId providerSessionId => do
    let _ ← World.onStoreNow (Store.setProviderSession sessionId providerSessionId)
    return false
  | recordCost expense => World.onStoreNow (Store.record expense)

/-- The world after a call, which may have failed. -/
def after (c : SessionCall ω) (w : World ω) : World ω := (c.run w).2

/-- The expense that a call says it has recorded. -/
def charges (c : SessionCall ω) (w : World ω) : List Charge :=
  match c with
  | recordCost e =>
    if (c.run w).1.toOption = some true then
      (w.store.findSession e.sessionId).toList.map fun x => { e with issueId := x.issueId }
    else []
  | _ => []

end SessionCall

namespace World

variable {ω : Type}

/-- The world after some calls. -/
def afterCalls (w : World ω) (cs : List (SessionCall ω)) : World ω :=
  cs.foldl (fun w c => c.after w) w

/-- The expenses that some calls say they have recorded. -/
def charges (w : World ω) : List (SessionCall ω) → List Charge
  | [] => []
  | c :: cs => c.charges w ++ charges (c.after w) cs

end World

/-! ## What a call does to the accounts -/

/-- The accounts are kept, a new one is opened, or an expense is added to one of them. -/
inductive Posts : List Account → List Charge → List Account → Prop
  | kept (as : List Account) : Posts as [] as
  | opened (as : List Account) (sessionId issueId : String)
      (new : sessionId ∉ as.map Account.sessionId) :
      Posts as [] (as ++ [.opening sessionId issueId])
  | charged (as : List Account) (c : Charge)
      (mem : ∃ a ∈ as, a.sessionId = c.sessionId ∧ a.issueId = c.issueId) :
      Posts as [c] (as.map (·.charge c.toExpense))

/-- The accounts of a store become those of another one, and no table goes. -/
structure Store.Books (s : Store) (cs : List Charge) (s' : Store) : Prop where
  missing : s'.missing = s.missing
  posts : Posts s.accounts cs s'.accounts

namespace Store

variable {s s' : Store} {now : Binary64}

lemma map_sessionId_accounts (s : Store) :
    s.accounts.map Account.sessionId = s.sessions.map Session.sessionId := by
  rw [accounts, List.map_map]
  rfl

/-- Records may change in what they do not tell about costs. -/
lemma map_account_map (xs : List Session) {f : Session → Session}
    (hf : ∀ x, (f x).account = x.account) :
    (xs.map f).map Session.account = xs.map Session.account := by
  rw [List.map_map]
  exact List.map_congr_left fun x _ => hf x

lemma accounts_updateSession {f : Session → Session} (hf : ∀ x, (f x).account = x.account)
    (s : Store) (sessionId : String) : (s.updateSession sessionId f).accounts = s.accounts :=
  map_account_map _ fun x => by
    split
    · exact hf x
    · rfl

lemma HandsOut.sameAccounts {worker : String} {ws : List Work} (h : s.HandsOut worker now ws s') :
    s'.missing = s.missing ∧ s'.accounts = s.accounts := by
  induction h with
  | nil => exact ⟨rfl, rfl⟩
  | @cons s s' w ws mem rest ih =>
    have hclaimed := accounts_updateSession (f := (·.claimBy worker now)) (fun _ => rfl)
      ((s.unqueue w.sessionId).unmark w.sessionId) w.sessionId
    exact ⟨ih.1, ih.2.trans hclaimed⟩

lemma accounts_giveUp (s : Store) (sessionId : String) (now : Binary64) :
    (s.giveUp sessionId now).accounts = s.accounts :=
  accounts_updateSession (f := (·.backToPending now)) (fun _ => rfl) _ _

lemma accounts_rebuilt (s : Store) (now : Binary64) : (s.rebuilt now).accounts = s.accounts :=
  map_account_map _ fun x => by
    split
    · rfl
    · rfl

lemma Books.of_same (hmissing : s'.missing = s.missing) (haccounts : s'.accounts = s.accounts) :
    s.Books [] s' where
  missing := hmissing
  posts := haccounts ▸ .kept _

/-- A session whose identifier is new opens an account if it has cost nothing yet. -/
lemma books_withSession {x : Session} (hnew : s.findSession x.sessionId = none)
    (hopening : x.account = .opening x.sessionId x.issueId) : s.Books [] (s.withSession x) := by
  have haccounts : (s.withSession x).accounts =
      s.accounts ++ [.opening x.sessionId x.issueId] := by
    rw [accounts, withSession_sessions, List.map_append, List.map_singleton, hopening, accounts]
  refine ⟨rfl, ?_⟩
  rw [haccounts]
  refine .opened _ _ _ ?_
  rw [map_sessionId_accounts]
  exact findSession_eq_none_iff.1 hnew

/-- An expense that fits is added to the account of its session. -/
lemma record_of_isStorable (h : s.Has [.sessions]) {e : Expense}
    (hinput : IsStorable e.inputTokens) (houtput : IsStorable e.outputTokens) (now : Binary64) :
    s.record e now = (.ok (s.findSession e.sessionId).isSome,
      s.updateSession e.sessionId fun x => { x with
        totalCost := x.totalCost + e.cost
        inputTokens := addCount x.inputTokens e.inputTokens
        outputTokens := addCount x.outputTokens e.outputTokens
        updatedAt := now }) := by
  rw [record, recordCost, Run.atomically_ok]
  rw [Transaction.bind_of_ok (requireTable_of_notMem (h _ (by simp))),
    Transaction.bind_of_ok (requireInteger_of_isStorable hinput),
    Transaction.bind_of_ok (requireInteger_of_isStorable houtput)]
  rfl

/-- An expense that does not fit is refused. -/
lemma record_of_not_isStorable (h : s.Has [.sessions]) {e : Expense}
    (hlarge : ¬ (IsStorable e.inputTokens ∧ IsStorable e.outputTokens)) (now : Binary64) :
    s.record e now = (.error (.outOfRange "integer too large for the store"), s) := by
  rw [record, recordCost, Run.atomically_error]
  rw [Transaction.bind_of_ok (requireTable_of_notMem (h _ (by simp)))]
  by_cases hinput : IsStorable e.inputTokens
  · rw [Transaction.bind_of_ok (requireInteger_of_isStorable hinput),
      Transaction.bind_of_error (requireInteger_of_not_isStorable fun houtput =>
        hlarge ⟨hinput, houtput⟩)]
  · rw [Transaction.bind_of_error (requireInteger_of_not_isStorable hinput)]

/-- The accounts after an expense has been recorded. -/
lemma accounts_recorded (s : Store) (e : Expense) (now : Binary64) :
    (s.updateSession e.sessionId fun x => { x with
        totalCost := x.totalCost + e.cost
        inputTokens := addCount x.inputTokens e.inputTokens
        outputTokens := addCount x.outputTokens e.outputTokens
        updatedAt := now }).accounts = s.accounts.map (·.charge e) := by
  rw [accounts, updateSession, accounts, List.map_map, List.map_map]
  refine List.map_congr_left fun x _ => ?_
  by_cases hid : x.sessionId = e.sessionId
  · simp [Session.account, Account.charge, hid]
  · simp [Session.account, Account.charge, hid]

/-- An expense of a session that is not on record adds to no account. -/
lemma map_charge_of_findSession {e : Expense} (h : s.findSession e.sessionId = none) :
    s.accounts.map (·.charge e) = s.accounts := by
  refine (List.map_congr_left fun a ha => Account.charge_of_ne fun hid => ?_).trans (List.map_id _)
  rw [findSession_eq_none_iff, ← map_sessionId_accounts, ← hid] at h
  exact h (List.mem_map_of_mem ha)

/-- A session on record has an account. -/
lemma exists_account_of_findSession {x : Session} {sessionId : String}
    (h : s.findSession sessionId = some x) :
    ∃ a ∈ s.accounts, a.sessionId = sessionId ∧ a.issueId = x.issueId := by
  refine ⟨x.account, List.mem_map_of_mem (List.mem_of_find?_eq_some h), ?_, rfl⟩
  have hid := List.find?_some h
  exact beq_iff_eq.1 hid

end Store

/-- Operations on the queue that remove no session keep all accounts or open one. -/
lemma Operation.Effect.books {ω : Type} {now : Binary64} {s s' : Store} {op : Operation ω}
    {r : Report} (heffect : Effect now s op r s') (hkeeps : ∀ part, op ≠ .removeMatching part) :
    s.Books [] s' := by
  cases heffect with
  | refused => exact .of_same rfl rfl
  | queued => exact .of_same rfl rfl
  | @placed _ _ issue workType sessionId priority prompt idle new free =>
    obtain ⟨hmissing, hposts⟩ := Store.books_withSession
      (x := StoreBacked.placedSession issue workType sessionId priority now) new rfl
    exact ⟨hmissing, hposts⟩
  | @failed _ _ issue workType sessionId priority error new =>
    exact Store.books_withSession
      (x := StoreBacked.failedSession issue workType sessionId priority now error) new rfl
  | handedOut works => exact .of_same works.sameAccounts.1 works.sameAccounts.2
  | lost works => exact .of_same works.sameAccounts.1 works.sameAccounts.2
  | @putBack work => exact .of_same rfl (s.accounts_giveUp work.sessionId now)
  | @givenUp work => exact .of_same rfl (s.accounts_giveUp work.sessionId now)
  | removed => exact .of_same rfl rfl
  | removedMatching part => exact absurd rfl (hkeeps part)
  | emptied => exact .of_same rfl rfl
  | rebuilt => exact .of_same rfl (s.accounts_rebuilt now)
  | unmarked => exact .of_same rfl rfl
  | unmarkedAll => exact .of_same rfl rfl
  | @moved sessionId status worker error =>
    exact .of_same rfl (s.accounts_updateSession (f := fun x => { x with
      status
      workerId := worker <|> x.workerId
      error := error <|> x.error
      updatedAt := now }) (fun _ => rfl) sessionId)

namespace SessionCall

variable {ω : Type}

lemma after_of_eq {c : SessionCall ω} {w w' : World ω} {r : Except Fault Bool}
    (h : c.run w = (r, w')) : c.after w = w' := by
  rw [after, h]

lemma after_work (op : Operation ω) (keeps : ∀ part, op ≠ .removeMatching part) (w : World ω) :
    (work op keeps).after w = op.after w := by
  rw [after, Operation.after, run, Run.bind_apply]
  rcases op.run w with ⟨_ | _, _⟩ <;> rfl

/-- An expense is added to the account of its session, if there is one and the expense fits. -/
lemma books_recordCost (e : Expense) {w : World ω} (h : w.store.missing = []) :
    w.store.Books ((recordCost e).charges w) ((recordCost e).after w).store := by
  have hs : w.store.Has [.sessions] := Store.has_of_missing h _
  by_cases hfits : Store.IsStorable e.inputTokens ∧ Store.IsStorable e.outputTokens
  · have hrun := World.onStoreNow_of_eq (x := Store.record e)
      (Store.record_of_isStorable hs hfits.1 hfits.2 w.clock)
    rw [after_of_eq (c := recordCost e) hrun]
    refine ⟨rfl, ?_⟩
    rw [Store.accounts_recorded]
    rcases hfound : w.store.findSession e.sessionId with - | x
    · have hnone : (recordCost e).charges w = [] := by
        rw [charges, run, hrun, hfound]
        rfl
      rw [hnone, Store.map_charge_of_findSession hfound]
      exact .kept _
    · have hone : (recordCost e).charges w = [{ e with issueId := x.issueId }] := by
        rw [charges, run, hrun, hfound]
        rfl
      rw [hone]
      exact .charged _ { e with issueId := x.issueId } (Store.exists_account_of_findSession hfound)
  · have hrun := World.onStoreNow_of_eq (x := Store.record e)
      (Store.record_of_not_isStorable hs hfits w.clock)
    have hnone : (recordCost e).charges w = [] := by
      rw [charges, run, hrun]
      rfl
    rw [after_of_eq (c := recordCost e) hrun, hnone]
    exact .of_same rfl rfl

/-- A call does to the accounts what it says it has recorded. -/
lemma books (c : SessionCall ω) {w : World ω} (h : w.store.missing = []) :
    w.store.Books (c.charges w) (c.after w).store := by
  have hs : w.store.Has [.sessions] := Store.has_of_missing h _
  cases c with
  | work op keeps =>
    obtain ⟨s, heffect, hleaves⟩ := op.hasEffect w (Store.has_of_missing h _)
    obtain ⟨hmissing, hposts⟩ := heffect.books keeps
    rw [after_work]
    have haccounts : (op.after w).store.accounts = s.accounts :=
      congrArg (List.map Session.account) hleaves.store.sessions
    exact ⟨hleaves.store.missing.trans hmissing, haccounts ▸ hposts⟩
  | createIfIdle n =>
    rcases Store.createIfIdle_cases n w.clock w.store with
      ⟨-, -, hnew, hcreate⟩ | ⟨-, hcreate⟩ | ⟨e, hcreate⟩
    · rw [after_of_eq (Run.bind_of_ok (World.onStoreNow_of_eq hcreate))]
      exact Store.books_withSession (x := n.toSession .pending w.clock) hnew rfl
    · rw [after_of_eq (Run.bind_of_ok (World.onStoreNow_of_eq hcreate))]
      exact .of_same rfl rfl
    · rw [after_of_eq (Run.bind_of_error (World.onStoreNow_of_eq hcreate))]
      exact .of_same rfl rfl
  | setProvider sessionId providerSessionId =>
    have hset : Store.setProviderSession sessionId providerSessionId w.clock w.store = _ :=
      Store.changing_of_has hs _
    rw [after_of_eq (Run.bind_of_ok (World.onStoreNow_of_eq hset))]
    exact .of_same rfl (w.store.accounts_updateSession (f := fun x => { x with
      providerSessionId := some providerSessionId, updatedAt := w.clock }) (fun _ => rfl) sessionId)
  | recordCost e => exact books_recordCost e h

end SessionCall

/-! ## What a run does to the accounts -/

/-- Every account is what the expenses so far have made of a new one, and every expense is about one
of the accounts. -/
structure Balanced (cs : List Charge) (as : List Account) : Prop where
  sessionIds : (as.map Account.sessionId).Nodup
  balance : ∀ a ∈ as,
    a = cs.foldl (fun a c => a.charge c.toExpense) (.opening a.sessionId a.issueId)
  recorded : ∀ c ∈ cs, ∃ a ∈ as, a.sessionId = c.sessionId ∧ a.issueId = c.issueId

/-- Expenses of other sessions do not count. -/
lemma Account.foldl_charge_of_notMem {a : Account} {cs : List Charge}
    (h : ∀ c ∈ cs, a.sessionId ≠ c.sessionId) :
    cs.foldl (fun a c => a.charge c.toExpense) a = a := by
  induction cs with
  | nil => rfl
  | cons c cs ih =>
    rw [List.foldl_cons, charge_of_ne (h c (by simp))]
    exact ih fun d hd => h d (by simp [hd])

namespace Balanced

variable {cs new : List Charge} {as as' : List Account}

lemma nil : Balanced [] [] where
  sessionIds := List.nodup_nil
  balance := by simp
  recorded := by simp

/-- A new account has no expenses yet, since expenses are about the accounts that are there. -/
lemma opened (h : Balanced cs as) {sessionId : String} (issueId : String)
    (hnew : sessionId ∉ as.map Account.sessionId) :
    Balanced cs (as ++ [.opening sessionId issueId]) where
  sessionIds := by
    rw [List.map_append, List.map_singleton, ← List.concat_eq_append]
    exact h.sessionIds.concat hnew
  balance a ha := by
    rcases List.mem_append.1 ha with ha | ha
    · exact h.balance a ha
    · obtain rfl := List.mem_singleton.1 ha
      refine (Account.foldl_charge_of_notMem fun c hc hid => hnew ?_).symm
      obtain ⟨b, hb, hbid, -⟩ := h.recorded c hc
      exact List.mem_map.2 ⟨b, hb, hbid.trans hid.symm⟩
  recorded c hc := by
    obtain ⟨a, ha, hrest⟩ := h.recorded c hc
    exact ⟨a, List.mem_append_left _ ha, hrest⟩

/-- One more expense makes of every account what it is after it. -/
lemma charged (h : Balanced cs as) {c : Charge}
    (hmem : ∃ a ∈ as, a.sessionId = c.sessionId ∧ a.issueId = c.issueId) :
    Balanced (cs ++ [c]) (as.map (·.charge c.toExpense)) where
  sessionIds := by
    have hids : Account.sessionId ∘ (·.charge c.toExpense) = Account.sessionId :=
      funext fun a => a.charge_sessionId c.toExpense
    rw [List.map_map, hids]
    exact h.sessionIds
  balance b hb := by
    obtain ⟨a, ha, rfl⟩ := List.mem_map.1 hb
    rw [List.foldl_append, Account.charge_sessionId, Account.charge_issueId, ← h.balance a ha]
    rfl
  recorded d hd := by
    have hbefore : ∃ a ∈ as, a.sessionId = d.sessionId ∧ a.issueId = d.issueId := by
      rcases List.mem_append.1 hd with hd | hd
      · exact h.recorded d hd
      · obtain rfl := List.mem_singleton.1 hd
        exact hmem
    obtain ⟨a, ha, hid, hissue⟩ := hbefore
    exact ⟨a.charge c.toExpense, List.mem_map_of_mem ha, (a.charge_sessionId _).trans hid,
      (a.charge_issueId _).trans hissue⟩

/-- The accounts stay balanced. -/
lemma posts (h : Balanced cs as) (hposts : Posts as new as') : Balanced (cs ++ new) as' := by
  cases hposts with
  | kept => rwa [List.append_nil]
  | opened sessionId issueId hnew =>
    rw [List.append_nil]
    exact h.opened issueId hnew
  | charged c hmem => exact h.charged hmem

end Balanced

namespace World

variable {ω : Type}

/-- A run keeps the accounts balanced. -/
lemma balanced_afterCalls {w : World ω} {before : List Charge} (hmissing : w.store.missing = [])
    (h : Balanced before w.store.accounts) (cs : List (SessionCall ω)) :
    (w.afterCalls cs).store.missing = [] ∧
      Balanced (before ++ w.charges cs) (w.afterCalls cs).store.accounts := by
  induction cs generalizing w before with
  | nil =>
    rw [charges, List.append_nil]
    exact ⟨hmissing, h⟩
  | cons c cs ih =>
    obtain ⟨hsame, hposts⟩ := c.books hmissing
    have hrest := ih (hsame.trans hmissing) (h.posts hposts)
    rw [List.append_assoc] at hrest
    exact hrest

end World

/-! ## Sums over the expenses -/

/-- The expenses of a session, in the order in which they were recorded. -/
def expensesOf (cs : List Charge) (sessionId : String) : List Charge :=
  cs.filter fun c => c.sessionId == sessionId

/-- The expenses of an issue, whatever its session. -/
def expensesAbout (cs : List Charge) (issueId : String) : List Charge :=
  cs.filter fun c => c.issueId == issueId

lemma expensesOf_cons (c : Charge) (cs : List Charge) (sessionId : String) :
    expensesOf (c :: cs) sessionId =
      if c.sessionId = sessionId then c :: expensesOf cs sessionId
      else expensesOf cs sessionId := by
  simp [expensesOf, List.filter_cons]

namespace Account

variable (a : Account) (cs : List Charge)

/-- What expenses make of an account is what its own ones add up to, one sum for each field. -/
lemma foldl_charge :
    cs.foldl (fun a c => a.charge c.toExpense) a = { a with
      cost := ((expensesOf cs a.sessionId).map (·.cost)).foldl (· + ·) a.cost
      inputTokens := ((expensesOf cs a.sessionId).map (·.inputTokens)).foldl Store.addCount
        a.inputTokens
      outputTokens := ((expensesOf cs a.sessionId).map (·.outputTokens)).foldl Store.addCount
        a.outputTokens } := by
  induction cs generalizing a with
  | nil => rfl
  | cons c cs ih =>
    rw [List.foldl_cons, ih, charge_sessionId, expensesOf_cons]
    by_cases hid : a.sessionId = c.sessionId
    · rw [if_pos hid.symm, charge, if_pos hid]
      rfl
    · rw [if_neg (Ne.symm hid), charge_of_ne hid]

end Account

/-- Among accounts of different sessions at most one counts for a session. -/
lemma sum_ite_sessionId {as : List Account} (hnodup : (as.map Account.sessionId).Nodup)
    (sessionId : String) (n : Int) :
    (as.map fun a => if a.sessionId = sessionId then n else 0).sum =
      if sessionId ∈ as.map Account.sessionId then n else 0 := by
  have hsum := List.sum_map_ite_eq (as.map Account.sessionId) (fun _ => n) (fun _ => 0) sessionId
  rw [List.map_map, hnodup.count, List.sum_map_zero, add_zero, sub_zero] at hsum
  refine hsum.trans ?_
  split <;> simp

/-- The expenses of an issue add up to what those of its sessions do. -/
lemma sum_expensesAbout {cs : List Charge} {as : List Account}
    (hnodup : (as.map Account.sessionId).Nodup)
    (hrecorded : ∀ c ∈ cs, ∃ a ∈ as, a.sessionId = c.sessionId ∧ a.issueId = c.issueId)
    (f : Charge → Int) (issueId : String) :
    ((as.filter fun a => a.issueId == issueId).map fun a =>
        ((expensesOf cs a.sessionId).map f).sum).sum =
      ((expensesAbout cs issueId).map f).sum := by
  induction cs with
  | nil => simp [expensesOf, expensesAbout]
  | cons c cs ih =>
    have hfirst (a : Account) : ((expensesOf (c :: cs) a.sessionId).map f).sum =
        (if a.sessionId = c.sessionId then f c else 0) +
          ((expensesOf cs a.sessionId).map f).sum := by
      rw [expensesOf_cons]
      by_cases hid : c.sessionId = a.sessionId
      · simp [hid]
      · simp [hid, Ne.symm hid]
    have hnodup' := hnodup.sublist
      ((List.filter_sublist (p := fun a => a.issueId == issueId)).map Account.sessionId)
    -- The first expense counts for the account of its session, which is one of its issue.
    obtain ⟨b, hb, hbid, hbissue⟩ := hrecorded c (by simp)
    have hcounts : c.sessionId ∈ (as.filter fun a => a.issueId == issueId).map Account.sessionId ↔
        c.issueId = issueId := by
      simp only [List.mem_map, List.mem_filter, beq_iff_eq]
      constructor
      · rintro ⟨a, ⟨ha, hissue⟩, hid⟩
        obtain rfl := List.inj_on_of_nodup_map hnodup ha hb (hid.trans hbid.symm)
        exact hbissue.symm.trans hissue
      · intro hissue
        exact ⟨b, ⟨hb, hbissue.trans hissue⟩, hbid⟩
    simp only [hfirst]
    rw [List.sum_map_add, sum_ite_sessionId hnodup', ih fun d hd => hrecorded d (by simp [hd])]
    simp only [hcounts, expensesAbout, List.filter_cons, beq_iff_eq]
    split <;> simp

/-- No sum on the way has more than 64 bits. -/
def CountExactly (ns : List Int) : Prop := ∀ ms, ms <+: ns → Store.IsStorable ms.sum

instance (ns : List Int) : Decidable (CountExactly ns) :=
  decidable_of_iff (∀ ms ∈ ns.inits, Store.IsStorable ms.sum) (by simp [CountExactly])

/-- Counts that have at most 64 bits are added up exactly. -/
lemma Store.foldl_addCount {ns : List Int} (h : CountExactly ns) :
    ns.foldl addCount 0 = .int ns.sum := by
  induction ns using List.reverseRecOn with
  | nil => rfl
  | append_singleton ns n ih =>
    have hbefore := ih fun ms hms => h ms (hms.trans (List.prefix_append ns [n]))
    have hsum : IsStorable (ns.sum + n) := by simpa using h _ (List.prefix_refl _)
    rw [List.foldl_append, List.foldl_cons, List.foldl_nil, hbefore, List.sum_append,
      List.sum_singleton]
    unfold IsStorable at hsum
    rw [addCount, if_pos hsum]

/-! ## No expense is lost -/

/-- Tokens have been counted one expense after the other, and exactly so if no sum on the way has
more than 64 bits. -/
structure Counts (ns : List Int) (count : Number) : Prop where
  inOrder : count = ns.foldl Store.addCount 0
  exact : CountExactly ns → count = .int ns.sum

/-- What becomes of an expense. -/
structure Store.TakesExpense (s : Store) (e : Expense) (now : Binary64) : Prop where
  /-- Numbers of tokens that fit are recorded exactly if the session is on record, and no other
  session and no other table is touched. -/
  accepts : IsStorable e.inputTokens → IsStorable e.outputTokens →
    ∃ s', s.record e now = (.ok (s.findSession e.sessionId).isSome, s') ∧
      s' = { s with sessions := s'.sessions } ∧
      List.Forall₂ (fun x y => x.sessionId ≠ e.sessionId → y = x) s.sessions s'.sessions
  /-- Others are refused, and nothing is changed. -/
  refuses : ¬ (IsStorable e.inputTokens ∧ IsStorable e.outputTokens) →
    s.record e now = (.error (.outOfRange "integer too large for the store"), s)

/-- The records account for all expenses. -/
structure Store.AccountsFor (s : Store) (cs : List Charge) : Prop where
  /-- Every expense is about a session on record, and about the issue of that session. -/
  recorded : ∀ c ∈ cs, ∃ x ∈ s.sessions, x.sessionId = c.sessionId ∧ x.issueId = c.issueId
  /-- What a session has cost is what its own expenses add up to, one after the other. -/
  sessionCost : ∀ x ∈ s.sessions,
    x.totalCost = ((expensesOf cs x.sessionId).map (·.cost)).foldl (· + ·) 0
  inputTokens : ∀ x ∈ s.sessions,
    Counts ((expensesOf cs x.sessionId).map (·.inputTokens)) x.inputTokens
  outputTokens : ∀ x ∈ s.sessions,
    Counts ((expensesOf cs x.sessionId).map (·.outputTokens)) x.outputTokens
  /-- If nothing has to be rounded on the way, neither for a session nor for the sum of the
  sessions, an issue has cost what all its expenses add up to. -/
  issueCost : ∀ issueId,
    (∀ x ∈ s.sessions, x.issueId = issueId →
      AddExactly ((expensesOf cs x.sessionId).map (·.cost))) →
    AddExactly ((s.sessions.filter fun x => x.issueId == issueId).map Session.totalCost) →
    ∃ cost, s.issueCost issueId = (.ok cost, s) ∧
      cost.units? = some (exactSum ((expensesAbout cs issueId).map (·.cost)))
  takesExpense : ∀ e now, s.TakesExpense e now

namespace Store

variable {s : Store}

/-- What some records have cost together is exact if nothing has to be rounded. -/
lemma units?_costOf {xs : List Session} (h : AddExactly (xs.map Session.totalCost)) :
    (costOf xs).units? = some (exactSum (xs.map Session.totalCost)) := by
  have hkept : ((xs.map Session.totalCost).filter fun c => !c.isNaN) = xs.map Session.totalCost :=
    List.filter_eq_self.2 fun c hc => by simp [Binary64.isNaN_of_isFinite (h.finite c hc)]
  have hsum := Binary64.units?_sum h
  have hnumber := Binary64.isNaN_of_isFinite (Binary64.isFinite_of_units hsum)
  rw [costOf, hkept]
  simpa [hnumber] using hsum

/-- If nothing has to be rounded, the sessions of an issue have cost what its expenses add up to. -/
lemma exactSum_totalCost {cs : List Charge} (h : Balanced cs s.accounts)
    (hcost : ∀ x ∈ s.sessions,
      x.totalCost = ((expensesOf cs x.sessionId).map (·.cost)).foldl (· + ·) 0) (issueId : String)
    (hexact : ∀ x ∈ s.sessions, x.issueId = issueId →
      AddExactly ((expensesOf cs x.sessionId).map (·.cost))) :
    exactSum ((s.sessions.filter fun x => x.issueId == issueId).map Session.totalCost) =
      exactSum ((expensesAbout cs issueId).map (·.cost)) := by
  let units (c : Charge) : Int := c.cost.units?.getD 0
  have hunits (ds : List Charge) : exactSum (ds.map (·.cost)) = (ds.map units).sum := by
    rw [exactSum, List.map_map]
    rfl
  calc exactSum ((s.sessions.filter fun x => x.issueId == issueId).map Session.totalCost)
      = ((s.sessions.filter fun x => x.issueId == issueId).map fun x =>
          ((expensesOf cs x.sessionId).map units).sum).sum := by
        rw [exactSum, List.map_map]
        refine congrArg List.sum (List.map_congr_left fun x hx => ?_)
        obtain ⟨hx, hissue⟩ := List.mem_filter.1 hx
        have htotal := (hexact x hx (beq_iff_eq.1 hissue)).units?_foldl
        rw [← hcost x hx, hunits] at htotal
        rw [Function.comp_apply, htotal, Option.getD_some]
    _ = ((s.accounts.filter fun a => a.issueId == issueId).map fun a =>
          ((expensesOf cs a.sessionId).map units).sum).sum := by
        rw [accounts, List.filter_map, List.map_map]
        rfl
    _ = ((expensesAbout cs issueId).map units).sum :=
        sum_expensesAbout h.sessionIds h.recorded units issueId
    _ = exactSum ((expensesAbout cs issueId).map (·.cost)) := (hunits _).symm

/-- Whatever the store holds, an expense is recorded or refused. -/
lemma takesExpense (h : s.missing = []) (e : Expense) (now : Binary64) : s.TakesExpense e now where
  accepts hinput houtput := by
    refine ⟨_, record_of_isStorable (has_of_missing h _) hinput houtput now, rfl, ?_⟩
    rw [updateSession, List.forall₂_map_right_iff, List.forall₂_same]
    intro x _ hid
    exact if_neg (by simpa using hid)
  refuses hlarge := record_of_not_isStorable (has_of_missing h _) hlarge now

/-- Records account for all expenses if their accounts are balanced. -/
lemma accountsFor {cs : List Charge} (hmissing : s.missing = []) (h : Balanced cs s.accounts) :
    s.AccountsFor cs := by
  have hfields (x : Session) (hx : x ∈ s.sessions) :=
    (h.balance x.account (List.mem_map_of_mem hx)).trans (Account.foldl_charge _ cs)
  have hcost (x : Session) (hx : x ∈ s.sessions) :
      x.totalCost = ((expensesOf cs x.sessionId).map (·.cost)).foldl (· + ·) 0 :=
    congrArg Account.cost (hfields x hx)
  refine ⟨?_, hcost, ?_, ?_, ?_, takesExpense hmissing⟩
  · intro c hc
    obtain ⟨a, ha, hrest⟩ := h.recorded c hc
    obtain ⟨x, hx, rfl⟩ := List.mem_map.1 ha
    exact ⟨x, hx, hrest⟩
  · intro x hx
    have hinput := congrArg Account.inputTokens (hfields x hx)
    exact ⟨hinput, fun hsums => hinput.trans (foldl_addCount hsums)⟩
  · intro x hx
    have houtput := congrArg Account.outputTokens (hfields x hx)
    exact ⟨houtput, fun hsums => houtput.trans (foldl_addCount hsums)⟩
  · intro issueId hsessions hissue
    refine ⟨_, reading_of_has (has_of_missing hmissing _) _, ?_⟩
    rw [units?_costOf hissue, exactSum_totalCost h hcost issueId hsessions]

end Store

namespace World

variable {ω : Type}

/-- In every run from an empty store the records account for every expense that a call says it has
recorded, whatever else is done to the sessions. -/
theorem accountsFor_afterCalls {w : World ω} (hempty : w.store = {}) (cs : List (SessionCall ω)) :
    (w.afterCalls cs).store.AccountsFor (w.charges cs) := by
  have hnil : Balanced [] w.store.accounts := by
    rw [hempty]
    exact .nil
  obtain ⟨hmissing, hbalanced⟩ := balanced_afterCalls (hempty ▸ rfl) hnil cs
  exact Store.accountsFor hmissing hbalanced

/-- The record of a session is rewritten again and again while costs are recorded on it: its work is
claimed, put back and queued anew, and it is over when the next session of the issue begins.  The
last two expenses are of a session that nobody knows, and too large. -/
def rewrittenRun : List (SessionCall Unit) :=
  [.work (.dispatch (.fixed [] "m") (Tracker.isQuiet_fixed [] "m") (.inBacklog "a") "development")
      nofun,
    .recordCost { sessionId := "m", cost := 2, inputTokens := 10 },
    .work (.claimSession "m" "u") nofun, .setProvider "m" "p",
    .recordCost { sessionId := "m", cost := 3, outputTokens := 4 },
    .work (.requeue (StoreBacked.newWork (.inBacklog "a") "m" "development" 3 none 0) 1) nofun,
    .work .reset nofun,
    .recordCost { sessionId := "m", cost := 1, inputTokens := 5 },
    .work (.updateStatus "m" .completed none none) nofun,
    .createIfIdle { sessionId := "n", issueId := "a" },
    .recordCost { sessionId := "n", cost := 5, inputTokens := 1 },
    .recordCost { sessionId := "t", cost := 9 },
    .recordCost { sessionId := "n", cost := 4, inputTokens := twoPow 63 }]

/-- In this run nothing has to be rounded, and the issue has cost as much as its two sessions. -/
theorem accountsFor_rewrittenRun :
    (fresh.afterCalls rewrittenRun).store.AccountsFor (fresh.charges rewrittenRun) ∧
      (fresh.charges rewrittenRun).map (fun c => (c.sessionId, c.issueId, c.cost)) =
        [("m", "a", 2), ("m", "a", 3), ("m", "a", 1), ("n", "a", 5)] ∧
      (fresh.afterCalls rewrittenRun).store.sessions.map Session.inputTokens = [15, 1] ∧
      (∀ x ∈ (fresh.afterCalls rewrittenRun).store.sessions, x.issueId = "a" →
        AddExactly ((expensesOf (fresh.charges rewrittenRun) x.sessionId).map (·.cost)) ∧
        CountExactly ((expensesOf (fresh.charges rewrittenRun) x.sessionId).map (·.inputTokens))) ∧
      AddExactly ((fresh.afterCalls rewrittenRun).store.sessions.map Session.totalCost) ∧
      ((fresh.afterCalls rewrittenRun).store.issueCost "a").1.toOption = some 11 :=
  ⟨accountsFor_afterCalls rfl rewrittenRun, by decide +kernel, by decide +kernel,
    by decide +kernel, by decide +kernel, by decide +kernel⟩

end World

/-- An expense is recorded exactly if its session is on record. -/
def Store.RecordsAll (s : Store) : Prop :=
  ∀ e now, (s.record e now).1 = .ok (s.findSession e.sessionId).isSome

/-- A store in which a session has just been recorded. -/
def Store.begun : Store :=
  (World.fresh.afterCalls [.createIfIdle { sessionId := "s", issueId := "a" }]).store

/-- A number of tokens that has more than 64 bits is not recorded, although the session is. -/
theorem Store.not_recordsAll_begun :
    (begun.findSession "s").isSome = true ∧
      (begun.record { sessionId := "s", cost := 1, inputTokens := twoPow 63 } 0).1 =
        .error (.outOfRange "integer too large for the store") ∧
      ¬ begun.RecordsAll := by
  have htables : begun.Has [.sessions] := has_of_missing (by decide +kernel) _
  have hlarge : ¬ IsStorable (twoPow 63) := by decide
  have hrefused : begun.record { sessionId := "s", cost := 1, inputTokens := twoPow 63 } 0 = _ :=
    record_of_not_isStorable htables (fun h => hlarge h.1) 0
  refine ⟨by decide +kernel, congrArg Prod.fst hrefused, fun h => ?_⟩
  have hrecorded := h { sessionId := "s", cost := 1, inputTokens := twoPow 63 } 0
  rw [hrefused] at hrecorded
  cases hrecorded

end IssueDispatch
