import IssueDispatch.Escalation
import IssueDispatch.Proofs.Overrides
import IssueDispatch.Proofs.Store.Workflow

/-!
# Steering

Humans steer the work on issues by directives and by answering touchpoints or not.  Whatever a
governor does on their behalf changes overrides, touchpoints and the records of failed cycles.  It
changes nothing else, neither the clock nor the tables in which work is kept.  Overrides change only
when a directive is followed and when an issue has failed so often that it is put on hold.
-/

namespace IssueDispatch

variable {ω α : Type}

/-- Nothing has changed in the store but overrides, records of failed cycles and touchpoints. -/
def Store.OnlySteers (s s' : Store) : Prop :=
  s' = { s with overrides := s'.overrides, workflow := s'.workflow, touchpoints := s'.touchpoints }

instance : IsPreorder Store Store.OnlySteers where
  refl _ := rfl
  trans s t u h h' := by
    rw [Store.OnlySteers, h', h]

/-- Nothing has changed in the store but overrides. -/
def Store.OnlyOverrides (s s' : Store) : Prop := s' = { s with overrides := s'.overrides }

instance : IsPreorder Store Store.OnlyOverrides where
  refl _ := rfl
  trans s t u h h' := by
    rw [Store.OnlyOverrides, h', h]

namespace World

/-- Nothing has changed but overrides, records of failed cycles and touchpoints. -/
structure OnlySteers (w w' : World ω) : Prop where
  store : w.store.OnlySteers w'.store
  frame : w' = { w with store := w'.store, overrides := w'.overrides }

instance : IsPreorder (World ω) OnlySteers where
  refl w := ⟨refl w.store, rfl⟩
  trans w v w' h h' := by
    refine ⟨trans_of Store.OnlySteers h.store h'.store, ?_⟩
    rw [h'.frame, h.frame]

/-- Nothing has changed but overrides. -/
structure OnlyOverrides (w w' : World ω) : Prop where
  store : w.store.OnlyOverrides w'.store
  frame : w' = { w with store := w'.store, overrides := w'.overrides }

instance : IsPreorder (World ω) OnlyOverrides where
  refl w := ⟨refl w.store, rfl⟩
  trans w v w' h h' := by
    refine ⟨trans_of Store.OnlyOverrides h.store h'.store, ?_⟩
    rw [h'.frame, h.frame]

lemma OnlySteers.of_onlyOverrides {w w' : World ω} (h : OnlyOverrides w w') :
    OnlySteers w w' := by
  refine ⟨?_, h.frame⟩
  rw [Store.OnlySteers, h.store]

/-- Nothing has changed but records of failed cycles and touchpoints. -/
structure OnlyTracks (w w' : World ω) : Prop where
  store : w.store.OnlyTracks w'.store
  frame : w' = { w with store := w'.store }

instance : IsPreorder (World ω) OnlyTracks where
  refl w := ⟨refl w.store, rfl⟩
  trans w v w' h h' := by
    refine ⟨trans_of Store.OnlyTracks h.store h'.store, ?_⟩
    rw [h'.frame, h.frame]

lemma onStore_keeps_onlyTracks {x : Run Store α} (hx : x.Keeps Store.OnlyTracks) :
    (onStore x : Run (World ω) α).Keeps OnlyTracks := by
  intro w
  rw [onStore_apply]
  exact ⟨hx w.store, rfl⟩

lemma onStoreNow_keeps_onlyTracks {x : Binary64 → Run Store α}
    (hx : ∀ now, (x now).Keeps Store.OnlyTracks) :
    (onStoreNow x : Run (World ω) α).Keeps OnlyTracks :=
  (Run.Keeps.of_eq fun _ => rfl).bind fun now => onStore_keeps_onlyTracks (hx now)

/-- What steers in the store steers. -/
lemma onStore_keeps_onlySteers {x : Run Store α} (hx : x.Keeps Store.OnlySteers) :
    (onStore x : Run (World ω) α).Keeps OnlySteers := by
  intro w
  rw [onStore_apply]
  exact ⟨hx w.store, rfl⟩

lemma onStoreNow_keeps_onlySteers {x : Binary64 → Run Store α}
    (hx : ∀ now, (x now).Keeps Store.OnlySteers) :
    (onStoreNow x : Run (World ω) α).Keeps OnlySteers :=
  (Run.Keeps.of_eq fun _ => rfl).bind fun now => onStore_keeps_onlySteers (hx now)

/-- Neither the clock nor any work has changed. -/
structure SameWork (w w' : World ω) : Prop where
  clock : w'.clock = w.clock
  store : w.store.SameWork w'.store

instance : IsPreorder (World ω) SameWork where
  refl w := ⟨rfl, refl w.store⟩
  trans _ _ _ h h' := ⟨h'.clock.trans h.clock, trans_of Store.SameWork h.store h'.store⟩

/-- What leaves only lapsed overrides behind leaves work alone. -/
lemma SameWork.of_onlyLapsed {w w' : World ω} (h : OnlyLapsed w w') : SameWork w w' :=
  ⟨h.clock, h.sameWork⟩

/-- No table has come or gone, and neither overrides that stay nor records of failed cycles have
changed. -/
structure LeavesSteering (w w' : World ω) : Prop where
  missing : w'.store.missing = w.store.missing
  workflow : w'.store.workflow = w.store.workflow
  standing : ∀ (shelf : OverrideShelf) issueId,
    shelf.standing w' issueId = shelf.standing w issueId

instance : IsPreorder (World ω) LeavesSteering where
  refl _ := ⟨rfl, rfl, fun _ _ => rfl⟩
  trans _ _ _ h h' := ⟨h'.missing.trans h.missing, h'.workflow.trans h.workflow,
    fun shelf issueId => (h'.standing shelf issueId).trans (h.standing shelf issueId)⟩

lemma LeavesSteering.of_onlyLapsed {w w' : World ω} (h : OnlyLapsed w w') :
    LeavesSteering w w' where
  missing := h.missing
  workflow := h.workflow
  standing shelf issueId := OverrideShelf.standing_of_inForce (h.inForce shelf issueId)

/-- Steering leaves work alone. -/
lemma SameWork.of_onlySteers {w w' : World ω} (h : OnlySteers w w') : SameWork w w' := by
  refine ⟨by rw [h.frame], ⟨?_, ?_, ?_, ?_⟩⟩ <;> rw [h.store]

lemma SameWork.of_onlyTracks {w w' : World ω} (h : OnlyTracks w w') : SameWork w w' := by
  refine ⟨by rw [h.frame], ⟨?_, ?_, ?_, ?_⟩⟩ <;> rw [h.store]

end World

namespace Store

lemma changeWorkflow_keeps (issueId : String) (f : WorkflowState → WorkflowState)
    (now : Binary64) : (changeWorkflow issueId f now).Keeps OnlySteers :=
  (reading_keeps _ _).bind fun _ => changing_keeps _ fun _ => rfl

lemma markResponded_keeps (issueId : String) (time : Binary64) :
    (markResponded issueId time).Keeps OnlySteers :=
  changing_keeps _ fun _ => rfl

end Store

namespace OverrideShelf

variable (shelf : OverrideShelf)

lemma clear_keeps (issueId : String) :
    (shelf.clear issueId : Run (World ω) Unit).Keeps World.OnlyOverrides := by
  intro w
  cases shelf with
  | inProcess => exact ⟨refl w.store, rfl⟩
  | shared =>
    have hclear : (Store.removeOverride issueId).Keeps Store.OnlyOverrides :=
      Store.changing_keeps _ fun _ => rfl
    exact ⟨hclear w.store, rfl⟩

lemma set_keeps (issueId : String) (d : Directive) (lasting : Option Binary64) :
    (shelf.set issueId d lasting : Run (World ω) Override).Keeps World.OnlyOverrides := by
  refine (Run.Keeps.of_eq fun _ => rfl).bind fun _ => Run.Keeps.bind (fun w => ?_) fun _ => .pure _
  cases shelf with
  | inProcess => exact ⟨refl w.store, rfl⟩
  | shared =>
    have hput (o : Override) : (Store.putOverride o).Keeps Store.OnlyOverrides :=
      Store.changing_keeps _ fun _ => rfl
    exact ⟨hput _ w.store, rfl⟩

end OverrideShelf

namespace Escalation

variable (e : Escalation ω)

/-! ### The parts of a directive and of a failed cycle -/

/-- Puts a directive in force in place of the one before; `RESUME` only clears that one. -/
def enforce (issueId : String) (d : Directive) : Run (World ω) Unit := do
  if d.kind = .resume then e.shelf.clear issueId
  else
    let _ ← e.shelf.set issueId d none

/-- Adapts the record of failed cycles to a directive. -/
def adapt (issueId : String) (d : Directive) : Run (World ω) Unit := do
  if d.kind = .resume then World.onStore (Store.clearWorkflow issueId)
  else if d.kind = .decompose then
    let _ ← World.onStoreNow (Store.setStrategy issueId .decompose)

/-- A directive answers what has been asked, before it is put in force. -/
lemma apply_eq (issueId : String) (d : Directive) :
    e.apply issueId d = (do
      let _ ← World.onStoreNow (Store.markResponded issueId)
      e.enforce issueId d
      adapt issueId d) := by
  refine congrArg (World.onStoreNow (Store.markResponded issueId) >>= ·) (funext fun _ => ?_)
  unfold enforce adapt
  cases hkind : d.kind <;> simp

/-- Saves a touchpoint of an issue and posts it. -/
def announce (issueId : String) (n : Notification) : Run (World ω) (Option Notification) := do
  let n ← World.onStore (Store.saveTouchpoint issueId { n with issueId })
  if let some post := e.postComment then post issueId n.body
  return some n

/-- Does what the strategy on record calls for. -/
def respond (issueId identifier : String) (cost : Option Binary64) (now : Binary64)
    (state : WorkflowState) : Run (World ω) (Option Notification) := do
  let subject : Notification.Subject :=
    { identifier, cycles := state.cycleCount, failures := state.failureSummary, cost }
  match ← Run.ofExcept (e.notification? state.strategy subject now) with
  | none => return none
  | some n =>
    if state.strategy = .escalateHuman then
      let _ ← e.shelf.set issueId (parking now) none
      e.announce issueId n
    else e.announce issueId n

/-- Counts a failed cycle and responds to it. -/
def escalate (issueId identifier : String) (cost : Option Binary64) (now : Binary64) :
    Run (World ω) (Option Notification) := do
  e.respond issueId identifier cost now (← World.onStore (Store.countFailure issueId now))

/-- Adds the summary of a failure, if there is one. -/
def noteSummary (issueId : String) (summary : Option String) (now : Binary64) :
    Run (World ω) Unit := do
  match summary with
  | none | some "" => pure ()
  | some summary =>
    let _ ← World.onStore (Store.addFailureSummary issueId summary now)

/-- A failed cycle is noted before it is counted. -/
lemma recordFailure_eq (issueId identifier : String) (summary : Option String)
    (cost : Option Binary64) : e.recordFailure issueId identifier summary cost = (do
      let now ← World.now
      World.onStore (Store.markQaFailed issueId now)
      noteSummary issueId summary now
      e.escalate issueId identifier cost now) := by
  have hnote (now : Binary64) (next : Unit → Run (World ω) (Option Notification)) :
      (match summary with
        | none | some "" => next ()
        | some summary => do
          let _ ← World.onStore (Store.addFailureSummary issueId summary now)
          next ()) = noteSummary issueId summary now >>= next := by
    unfold noteSummary
    split
    · rfl
    · rfl
    · rw [bind_assoc]
      rfl
  refine congrArg (World.now >>= ·) (funext fun now => ?_)
  refine congrArg (World.onStore (Store.markQaFailed issueId now) >>= ·) (funext fun _ => ?_)
  exact hnote now fun _ => e.escalate issueId identifier cost now

/-! ### What they keep -/

section Relation

variable {R : World ω → World ω → Prop} [IsPreorder (World ω) R]

/-- Adapting a record keeps what it keeps to clear it and to set a strategy. -/
lemma adapt_keeps {issueId : String} {d : Directive}
    (hclear : d.kind = .resume →
      (World.onStore (Store.clearWorkflow issueId) : Run (World ω) _).Keeps R)
    (hset : d.kind = .decompose →
      (World.onStoreNow (Store.setStrategy issueId .decompose) : Run (World ω) _).Keeps R) :
    (adapt issueId d : Run (World ω) Unit).Keeps R := by
  unfold adapt
  by_cases hresume : d.kind = .resume
  · rw [if_pos hresume]
    exact hclear hresume
  · rw [if_neg hresume]
    by_cases hdecompose : d.kind = .decompose
    · rw [if_pos hdecompose]
      exact (hset hdecompose).bind fun _ => .pure ()
    · rw [if_neg hdecompose]
      exact .pure ()

/-- Proceeding with touchpoints keeps what it keeps to mark one and to set a strategy. -/
lemma proceed_keeps
    (hmark : ∀ id now, (World.onStore (Store.markAutoProceeded id now) : Run (World ω) _).Keeps R)
    {ns : List Notification}
    (hset : ∀ n ∈ ns, n.kind.defaultAction? = some .decompose →
      (World.onStoreNow (Store.setStrategy n.issueId .decompose) : Run (World ω) _).Keeps R)
    (now : Binary64) : (proceed ns now : Run (World ω) _).Keeps R := by
  induction ns with
  | nil => exact .pure []
  | cons n rest ih =>
    obtain ⟨hfirst, hothers⟩ := List.forall_mem_cons.1 hset
    have hrest := ih hothers
    rw [proceed]
    split
    · exact hrest
    · rename_i action haction
      have hdone : (proceed rest now >>= fun ns => pure ((n, action) :: ns) :
          Run (World ω) _).Keeps R := hrest.bind fun _ => .pure _
      refine (hmark _ _).bind fun _ => ?_
      by_cases hdecompose : action = .decompose
      · rw [if_pos hdecompose]
        exact (hfirst (hdecompose ▸ haction)).bind fun _ => hdone
      · rw [if_neg hdecompose]
        exact hdone

/-- Announcing a touchpoint keeps what it keeps to save and to post it. -/
lemma announce_keeps {issueId : String}
    (hsave : ∀ n, (World.onStore (Store.saveTouchpoint issueId n) : Run (World ω) _).Keeps R)
    (hpost : ∀ post ∈ e.postComment, ∀ body, (post issueId body).Keeps R) (n : Notification) :
    (e.announce issueId n).Keeps R := by
  refine (hsave _).bind fun n => ?_
  rcases hcomment : e.postComment with - | post
  · exact .pure _
  · exact (hpost post hcomment n.body).bind fun _ => .pure _

/-- The response to a failed cycle keeps what it keeps to put the issue on hold and to save and post
a touchpoint. -/
lemma respond_keeps {issueId : String}
    (hhold : ∀ now, (e.shelf.set issueId (parking now) none : Run (World ω) _).Keeps R)
    (hsave : ∀ n, (World.onStore (Store.saveTouchpoint issueId n) : Run (World ω) _).Keeps R)
    (hpost : ∀ post ∈ e.postComment, ∀ body, (post issueId body).Keeps R)
    (identifier : String) (cost : Option Binary64) (now : Binary64) (state : WorkflowState) :
    (e.respond issueId identifier cost now state).Keeps R := by
  have hannounce (n : Notification) : (e.announce issueId n).Keeps R :=
    e.announce_keeps hsave hpost n
  refine (Run.Keeps.ofExcept _).bind fun n? => ?_
  rcases n? with - | n
  · exact .pure none
  · exact .ite ((hhold now).bind fun _ => hannounce n) (hannounce n)

/-- Counting a failed cycle keeps what its parts keep: the record is changed three times, an issue
that only a human can help is put on hold, and a touchpoint is saved and posted. -/
lemma recordFailure_keeps {issueId : String}
    (hmark : ∀ now, (World.onStore (Store.markQaFailed issueId now) : Run (World ω) _).Keeps R)
    (hsummary : ∀ summary now,
      (World.onStore (Store.addFailureSummary issueId summary now) : Run (World ω) _).Keeps R)
    (hcount : ∀ now, (World.onStore (Store.countFailure issueId now) : Run (World ω) _).Keeps R)
    (hhold : ∀ now, (e.shelf.set issueId (parking now) none : Run (World ω) _).Keeps R)
    (hsave : ∀ n, (World.onStore (Store.saveTouchpoint issueId n) : Run (World ω) _).Keeps R)
    (hpost : ∀ post ∈ e.postComment, ∀ body, (post issueId body).Keeps R)
    (identifier : String) (summary : Option String) (cost : Option Binary64) :
    (e.recordFailure issueId identifier summary cost).Keeps R := by
  have hescalate (now : Binary64) : (e.escalate issueId identifier cost now).Keeps R :=
    (hcount now).bind fun state => e.respond_keeps hhold hsave hpost identifier cost now state
  have hnote (now : Binary64) : (noteSummary issueId summary now : Run (World ω) Unit).Keeps R := by
    unfold noteSummary
    split
    · exact .pure ()
    · exact .pure ()
    · exact (hsummary _ now).bind fun _ => .pure ()
  rw [recordFailure_eq]
  exact .bind (.of_eq fun _ => rfl) fun now => (hmark now).bind fun _ => (hnote now).bind fun _ =>
    hescalate now

/-- Besides the hold and the comment a failed cycle changes nothing but its record and the
touchpoints. -/
lemma recordFailure_keeps_of_onlyTracks {issueId : String}
    (htracks : ∀ w w' : World ω, w.OnlyTracks w' → R w w')
    (hhold : ∀ now, (e.shelf.set issueId (parking now) none : Run (World ω) _).Keeps R)
    (hpost : ∀ post ∈ e.postComment, ∀ body, (post issueId body).Keeps R)
    (identifier : String) (summary : Option String) (cost : Option Binary64) :
    (e.recordFailure issueId identifier summary cost).Keeps R := by
  have hstore {α : Type} {x : Run Store α} (hx : x.Keeps Store.OnlyTracks) :
      (World.onStore x : Run (World ω) α).Keeps R :=
    (World.onStore_keeps_onlyTracks hx).mono htracks
  refine e.recordFailure_keeps (fun now => ?_) (fun summary now => ?_) (fun now => ?_) hhold
    (fun n => ?_) hpost identifier summary cost
  · exact hstore (Store.markQaFailed_onlyTracks issueId now)
  · exact hstore (Store.changeWorkflow_onlyTracks issueId _ now)
  · exact hstore (Store.changeWorkflow_onlyTracks issueId _ now)
  · exact hstore ((Store.saveTouchpoint_onlyTouchpoints issueId n).mono fun _ _ =>
      .of_onlyTouchpoints)

end Relation

/-- Proceeding with touchpoints changes nothing but them and the strategies of their issues. -/
lemma processTimeouts_keeps (now? : Option Binary64) :
    (e.processTimeouts now?).Keeps World.OnlyTracks := by
  refine (Run.Keeps.of_eq fun _ => rfl).bind fun _ =>
    (World.onStore_keeps_onlyTracks (Store.reading_keeps _ _)).bind fun _ => ?_
  refine proceed_keeps (fun id now => ?_) (fun n _ _ => ?_) _
  · exact World.onStore_keeps_onlyTracks
      ((Store.markAutoProceeded_onlyTouchpoints id now).mono fun _ _ => .of_onlyTouchpoints)
  · exact World.onStoreNow_keeps_onlyTracks fun now => Store.changeWorkflow_onlyTracks _ _ now

/-- Noting a success changes nothing but the record of the issue. -/
lemma recordSuccess_keeps (issueId : String) :
    (e.recordSuccess issueId).Keeps World.OnlyTracks :=
  World.onStoreNow_keeps_onlyTracks fun now => Store.clearQaFailed_onlyTracks issueId now

/-- Putting a directive in force changes nothing but overrides. -/
lemma enforce_keeps (issueId : String) (d : Directive) :
    (e.enforce issueId d).Keeps World.OnlyOverrides :=
  .ite (e.shelf.clear_keeps issueId) ((e.shelf.set_keeps issueId d none).bind fun _ => .pure ())

/-- Adapting a record changes nothing else. -/
lemma adapt_onlyTracks (issueId : String) (d : Directive) :
    (adapt issueId d : Run (World ω) Unit).Keeps World.OnlyTracks := by
  refine adapt_keeps (fun _ => ?_) fun _ => ?_
  · exact World.onStore_keeps_onlyTracks (Store.changing_keeps _ fun _ => rfl)
  · exact World.onStoreNow_keeps_onlyTracks fun now => Store.changeWorkflow_onlyTracks _ _ now

/-- Following a directive steers. -/
lemma apply_keeps (issueId : String) (d : Directive) :
    (e.apply issueId d).Keeps World.OnlySteers := by
  rw [apply_eq]
  refine (World.onStoreNow_keeps_onlySteers (Store.markResponded_keeps issueId)).bind fun _ => ?_
  refine ((e.enforce_keeps issueId d).mono fun _ _ => .of_onlyOverrides).bind fun _ => ?_
  refine adapt_keeps (fun _ => ?_) fun _ => ?_
  · exact World.onStore_keeps_onlySteers (Store.changing_keeps _ fun _ => rfl)
  · exact World.onStoreNow_keeps_onlySteers fun now => Store.changeWorkflow_keeps _ _ now

end Escalation

end IssueDispatch
