import IssueDispatch.Proofs.Governor.Keeping
import IssueDispatch.Proofs.Queue.Operation

/-!
# What operations on the queue leave alone

An operation on the queue changes the tables of work, and a poll sends a heartbeat as well.  A
dispatch also lets overrides lapse.  `Operation.run_keeps` says so once, for every relation that
these changes keep.  In particular, no such operation touches an override that stays or the record
of failed cycles of an issue.
-/

namespace IssueDispatch

variable {ω α : Type}

/-- Nothing has changed in the store but the tables of work. -/
def Store.OnlyWork (s s' : Store) : Prop :=
  s' = { s with queue := s'.queue, claims := s'.claims, sessions := s'.sessions }

instance : IsPreorder Store Store.OnlyWork where
  refl _ := rfl
  trans s t u h h' := by
    rw [Store.OnlyWork, h', h]

/-- Nothing has changed in the store but the tables of work and the registrations of workers. -/
def Store.OnlyService (s s' : Store) : Prop :=
  s' = { s with
    queue := s'.queue, claims := s'.claims, sessions := s'.sessions, workers := s'.workers }

instance : IsPreorder Store Store.OnlyService where
  refl _ := rfl
  trans s t u h h' := by
    rw [Store.OnlyService, h', h]

lemma Store.OnlyWork.onlyService {s s' : Store} (h : s.OnlyWork s') : s.OnlyService s' := by
  rw [OnlyService, h]

/-- What is kept in the process and what the store knows of work and of workers has nothing to do
with steering. -/
lemma World.LeavesSteering.of_onlyService {w w' : World ω} (h : w.store.OnlyService w'.store)
    (hhere : w'.overrides = w.overrides) : w.LeavesSteering w' where
  missing := by rw [h]
  workflow := by rw [h]
  standing shelf issueId := by
    cases shelf with
    | shared => rw [OverrideShelf.standing, OverrideShelf.kept, h]; rfl
    | inProcess => rw [OverrideShelf.standing, OverrideShelf.kept, hhere]; rfl

namespace Store

lemma enqueue_onlyWork (work : Work) : (enqueue work).Keeps OnlyWork := by
  intro s
  rcases enqueue_cases work s with ⟨-, -, -, h⟩ | h | ⟨e, -, h⟩ <;> rw [h] <;> rfl

/-- Handing work out changes nothing but the tables of work. -/
lemma handOut?_onlyWork (w? : Option Work) (worker : String) (now : Binary64) :
    (handOut? w? worker now).Keeps OnlyWork := by
  cases w? with
  | none => exact .pure none
  | some work =>
    have hgive : (modify fun s => s.handOut work.sessionId worker now :
        Transaction Store Unit).Keeps OnlyWork := Transaction.modify_keeps fun _ => rfl
    exact Transaction.Keeps.bind (.of_eq fun _ _ _ => eq_of_requireTables) fun _ =>
      hgive.bind fun _ => .pure _

/-- Handing out whatever is chosen from the queue changes nothing but the tables of work. -/
lemma handOutChosen_onlyWork (choose : Store → Option Work) (worker : String) (now : Binary64) :
    (Run.atomically do
      requireTable .workQueue
      handOut? (choose (← get)) worker now).Keeps OnlyWork := by
  refine Transaction.Keeps.atomically
    (Transaction.Keeps.bind (.of_eq fun _ _ _ => eq_of_requireTable) fun _ => ?_)
  exact Transaction.Keeps.bind (.of_eq fun _ _ _ h => (Prod.mk.inj (Except.ok.inj h)).2.symm)
    fun _ => handOut?_onlyWork _ _ _

lemma claim_onlyWork (worker : String) (projects : Option (List String)) (now : Binary64) :
    (claim worker projects now).Keeps OnlyWork :=
  handOutChosen_onlyWork (fun s => (s.eligible projects).head?) worker now

lemma claimSession_onlyWork (sessionId worker : String) (now : Binary64) :
    (claimSession sessionId worker now).Keeps OnlyWork :=
  handOutChosen_onlyWork (fun s => s.queue.find? fun w => w.sessionId == sessionId) worker now

lemma claimMany_onlyWork (worker : String) (projects : Option (List String)) (now : Binary64)
    (n : Nat) : (claimMany worker projects now n).Keeps OnlyWork := by
  induction n with
  | zero => exact .pure []
  | succ n ih =>
    refine (claim_onlyWork worker projects now).bind fun w? => ?_
    cases w? with
    | none => exact .pure []
    | some work => exact ih.bind fun _ => .pure _

lemma heartbeat_onlyService (id : String) (activeCount : Int) (status : Option String)
    (now : Binary64) : (heartbeat id activeCount status now).Keeps OnlyService := by
  refine Transaction.Keeps.atomically
    (Transaction.Keeps.bind (.of_eq fun _ _ _ => eq_of_requireTable) fun _ => ?_)
  refine Transaction.Keeps.bind (.of_eq fun _ _ _ => eq_of_requireInteger) fun _ => ?_
  exact Transaction.modifyGet_keeps fun _ => rfl

/-- A poll claims work and sends a heartbeat. -/
lemma poll_keeps {R : Store → Store → Prop} [IsPreorder Store R]
    (hwork : ∀ s s', s.OnlyWork s' → R s s') (id : String) (now : Binary64)
    (hbeat : ∀ activeCount, (heartbeat id activeCount none now).Keeps R) :
    (poll id now).Keeps R := by
  refine (reading_keeps _ _).bind fun worker? => ?_
  cases worker? with
  | none => exact .pure []
  | some worker =>
    have hclaims := (claimMany_onlyWork id worker.projects now
      (min worker.availableSlots maxClaimsPerPoll).toNat).mono hwork
    refine .ite (.pure []) (hclaims.bind fun works => ?_)
    exact .ite ((hbeat _).bind fun _ => .pure works) (.pure works)

lemma updateStatus_onlyWork (sessionId : String) (status : SessionStatus)
    (worker error : Option String) (now : Binary64) :
    (updateStatus sessionId status worker error now).Keeps OnlyWork :=
  .ite (.throw _) (changing_keeps _ fun _ => rfl)

end Store

namespace Operation

/-- Whether an operation is one on the queue or on records of sessions. -/
def IsOwn : Operation ω → Prop
  | elsewhere .. => False
  | _ => True

section Keeps

variable {R : World ω → World ω → Prop} [IsPreorder (World ω) R]
  (hlapsed : ∀ w w', World.OnlyLapsed w w' → R w w')
  (hwork : ∀ (w : World ω) (s : Store), w.store.OnlyWork s → R w { w with store := s })

include hlapsed hwork

/-- An operation on the queue keeps what a change of the tables of work keeps, provided that the
lapse of overrides keeps it and, in the case of a poll, the poll does. -/
lemma run_keeps {op : Operation ω} (hop : op.IsOwn)
    (hpoll : ∀ worker, op = .poll worker → (World.onStoreNow (Store.poll worker)).Keeps R) :
    op.run.Keeps R := by
  have onStore {α : Type} {x : Run Store α} (hx : x.Keeps Store.OnlyWork) :
      (World.onStore x : Run (World ω) α).Keeps R := fun w => hwork w _ (hx w.store)
  have onStoreNow {α : Type} {x : Binary64 → Run Store α}
      (hx : ∀ now, (x now).Keeps Store.OnlyWork) :
      (World.onStoreNow x : Run (World ω) α).Keeps R := fun w => hwork w _ (hx w.clock w.store)
  cases op with
  | dispatch b quiet issue workType =>
    have hdispatch : (b.dispatch issue workType).Keeps R :=
      StoreBacked.dispatch_keeps quiet hlapsed (fun w _ _ => hwork w _ rfl) issue workType
    exact hdispatch.bind fun _ => .bind (.of_eq fun _ => rfl) fun _ => .pure _
  | enqueue work => exact (onStore (Store.enqueue_onlyWork work)).bind fun _ => .pure _
  | claim worker projects =>
    exact (onStoreNow (Store.claim_onlyWork worker projects)).bind fun _ => .pure _
  | claimSession sessionId worker =>
    exact (onStoreNow (Store.claimSession_onlyWork sessionId worker)).bind fun _ => .pure _
  | poll worker => exact (hpoll worker rfl).bind fun _ => .pure _
  | requeue work boost =>
    have hgiveUp (now : Binary64) : (Store.changing [.workClaims, .sessions] fun s =>
        ((), (s.unmark work.sessionId).updateSession work.sessionId (·.backToPending now))).Keeps
          Store.OnlyWork := Store.changing_keeps _ fun _ => rfl
    exact .bind (.of_eq fun _ => rfl) fun now =>
      (onStore ((hgiveUp now).bind fun _ => Store.enqueue_onlyWork _)).bind fun _ => .pure _
  | remove sessionId =>
    have hremove : (Store.removeQueued sessionId).Keeps Store.OnlyWork :=
      Store.changing_keeps _ fun _ => rfl
    exact (onStore hremove).bind fun _ => .pure _
  | removeMatching part =>
    have hremove : (Store.removeMatching part).Keeps Store.OnlyWork :=
      Store.changing_keeps _ fun _ => rfl
    exact (onStore hremove).bind fun _ => .pure _
  | clearQueue =>
    have hclear : Store.clearQueue.Keeps Store.OnlyWork := Store.changing_keeps _ fun _ => rfl
    exact (onStore hclear).bind fun _ => .pure _
  | reset =>
    have hreset (now : Binary64) : (Store.reset now).Keeps Store.OnlyWork :=
      Store.changing_keeps _ fun _ => rfl
    exact (onStoreNow hreset).bind fun _ => .bind (.of_eq fun _ => rfl) fun _ => .pure _
  | releaseClaim sessionId =>
    have hrelease : (Store.releaseClaim sessionId).Keeps Store.OnlyWork :=
      Store.changing_keeps _ fun _ => rfl
    exact (onStore hrelease).bind fun _ => .pure _
  | clearClaims =>
    have hclear : Store.clearClaims.Keeps Store.OnlyWork := Store.changing_keeps _ fun _ => rfl
    exact (onStore hclear).bind fun _ => .pure _
  | updateStatus sessionId status worker error =>
    exact (onStoreNow (Store.updateStatus_onlyWork sessionId status worker error)).bind
      fun _ => .pure _
  | elsewhere => exact hop.elim

end Keeps

/-- Operations on the queue leave steering alone. -/
lemma leavesSteering_after {op : Operation ω} (hop : op.IsOwn) (w : World ω) :
    w.LeavesSteering (op.after w) := by
  have hpoll (worker : String) :
      (World.onStoreNow (Store.poll worker) : Run (World ω) _).Keeps World.LeavesSteering :=
    fun w => .of_onlyService (Store.poll_keeps (fun _ _ h => h.onlyService) worker w.clock
      (fun n => Store.heartbeat_onlyService worker n none w.clock) w.store) rfl
  exact run_keeps (fun _ _ => .of_onlyLapsed) (fun _ _ h => .of_onlyService h.onlyService rfl) hop
    (fun worker _ => hpoll worker) w

end Operation

end IssueDispatch
