import IssueDispatch.Proofs.Expiry
import IssueDispatch.Proofs.Governor.Activity
import IssueDispatch.Proofs.Governor.Relating
import IssueDispatch.Proofs.Store.Isolation

/-!
# Issues keep to themselves

What is done for one issue does not show in any other.  It is stated twice, for what is written and
for what is read.

An `IssueOperation` names an issue; it changes nothing that is kept about any other issue, neither
in the store nor among the overrides of the process (`World.SameAbout`).  An override that is over
is removed when it is read, but only that of the issue that was asked about.

And what is kept about the other issues is not read.  Of two worlds that agree on the rows about an
issue, whatever else they hold, a governor makes the same decision about it, and a dispatch of the
issue succeeds in both or in none.  The code outside must not tell the two worlds apart either; how
far their outside states agree is left open, as a relation `O` of such states.
-/

namespace IssueDispatch

variable {ω α : Type} {issueId other : String}

/-! ## What is kept about an issue -/

/-- The same is kept about an issue, in the store and in the process. -/
structure World.SameAbout (issueId : String) (w w' : World ω) : Prop where
  store : w.store.SameAbout issueId w'.store
  overrides : rowsAbout Override.issueId issueId w'.overrides =
    rowsAbout Override.issueId issueId w.overrides

namespace World

variable {w w' : World ω}

instance : IsPreorder (World ω) (SameAbout issueId) where
  refl w := ⟨refl w.store, rfl⟩
  trans _ _ _ h h' :=
    ⟨trans_of (Store.SameAbout issueId) h.store h'.store, h'.overrides.trans h.overrides⟩

lemma SameAbout.of_onlyOutside (h : w.OnlyOutside w') : w.SameAbout issueId w' := by
  obtain ⟨o, rfl⟩ := h
  exact ⟨refl w.store, rfl⟩

lemma SameAbout.of_store {s : Store} (h : w.store.SameAbout issueId s) :
    w.SameAbout issueId { w with store := s } := ⟨h, rfl⟩

lemma onStore_apart {x : Run Store α} (hx : x.Keeps (Store.SameAbout issueId)) :
    (onStore x : Run (World ω) α).Keeps (SameAbout issueId) := fun w => .of_store (hx w.store)

lemma onStoreNow_apart {x : Binary64 → Run Store α}
    (hx : ∀ now, (x now).Keeps (Store.SameAbout issueId)) :
    (onStoreNow x : Run (World ω) α).Keeps (SameAbout issueId) :=
  fun w => .of_store (hx w.clock w.store)

end World

/-! ## Operations that name another issue -/

section Apart

variable (hother : other ≠ issueId)

include hother

namespace OverrideShelf

variable (shelf : OverrideShelf)

lemma clear_apart : (shelf.clear other : Run (World ω) Unit).Keeps (World.SameAbout issueId) := by
  cases shelf with
  | shared => exact World.onStore_apart (Store.removeOverride_apart hother)
  | inProcess => exact fun w => ⟨refl w.store, rowsAbout_remove hother⟩

lemma get_apart : (shelf.get other : Run (World ω) _).Keeps (World.SameAbout issueId) := by
  have hfind : (shelf.find other : Run (World ω) _).Keeps (World.SameAbout issueId) := by
    refine .of_eq fun w => ?_
    rcases shelf.find_cases other w with h | ⟨e, h⟩
    · rw [h]
    · rw [h]
  refine hfind.bind fun o? => ?_
  rcases o? with - | o
  · exact .pure none
  · exact (Run.Keeps.of_eq fun _ => rfl).bind fun _ =>
      .ite ((shelf.clear_apart hother).bind fun _ => .pure none) (.pure _)

lemma set_apart (d : Directive) (lasting : Option Binary64) :
    (shelf.set other d lasting : Run (World ω) _).Keeps (World.SameAbout issueId) := by
  refine (Run.Keeps.of_eq fun _ => rfl).bind fun now => Run.Keeps.bind ?_ fun _ => .pure _
  let o := Override.ofDirective other d lasting now
  have ho : o.issueId ≠ issueId := hother
  cases shelf with
  | shared => exact World.onStore_apart (Store.putOverride_apart ho)
  | inProcess => exact fun w => ⟨refl w.store, rowsAbout_replace ho⟩

end OverrideShelf

namespace StoreBacked

variable {b : StoreBacked ω} (hquiet : b.tracker.IsQuiet)

include hquiet

lemma answersKeep_apart : b.collaborators.AnswersKeep (World.SameAbout issueId) other :=
  answersKeep_collaborators
    (fun check hcheck => (hquiet.isParentIssue check hcheck other).mono
      fun _ _ => .of_onlyOutside)
    (b.shelf.get_apart hother)

omit hother in
/-- A dispatch records a session of its issue and queues the work for it, no other. -/
lemma dispatch_apart {issue : Issue} (hissue : issue.id ≠ issueId) (workType : String) :
    (b.dispatch issue workType).Keeps (World.SameAbout issueId) := by
  refine dispatch_keeps_of_parts hquiet (fun _ _ => .of_onlyOutside) (b.shelf.get_apart hissue)
    (fun w x hx => ?_) (fun w work hwork => ?_) workType
  · exact .of_store (Store.sameAbout_withSession (hx ▸ hissue))
  · exact .of_store (Store.sameAbout_withWork (hwork ▸ hissue))

end StoreBacked

namespace Escalation

variable {e : Escalation ω} {shelf : OverrideShelf}

lemma IsInstalled.recordFailure_apart (he : e.IsInstalled shelf) (identifier : String)
    (summary : Option String) (cost : Option Binary64) :
    (e.recordFailure other identifier summary cost).Keeps (World.SameAbout issueId) := by
  refine e.recordFailure_keeps (fun now => ?_) (fun summary now => ?_) (fun now => ?_)
    (fun now => ?_) (fun n => ?_) (fun post hpost body => ?_) identifier summary cost
  · exact World.onStore_apart (Store.markQaFailed_apart hother now)
  · exact World.onStore_apart (Store.changeWorkflow_apart hother
      (f := fun x => x.addSummary summary) (fun _ => rfl) now)
  · exact World.onStore_apart (Store.changeWorkflow_apart hother
      (f := WorkflowState.countFailure) (fun _ => rfl) now)
  · exact e.shelf.set_apart hother _ none
  · exact World.onStore_apart (Store.saveTouchpoint_apart hother n)
  · exact (he.postComment post hpost other body).mono fun _ _ => .of_onlyOutside

lemma apply_apart (e : Escalation ω) (d : Directive) :
    (e.apply other d).Keeps (World.SameAbout issueId) := by
  rw [apply_eq]
  refine (World.onStoreNow_apart (Store.markResponded_apart hother)).bind fun _ => ?_
  refine Run.Keeps.bind (.ite (e.shelf.clear_apart hother)
    ((e.shelf.set_apart hother d none).bind fun _ => .pure ())) fun _ => ?_
  refine adapt_keeps (fun _ => ?_) fun _ => ?_
  · exact World.onStore_apart (Store.clearWorkflow_apart hother)
  · exact World.onStoreNow_apart fun now =>
      Store.changeWorkflow_apart hother (f := fun x => { x with strategy := .decompose })
        (fun _ => rfl) now

end Escalation

end Apart

/-- An operation on the record of the failed cycles of an issue. -/
inductive WorkflowCall where
  | get
  | getStrategy
  | didJustFail (cooldown : Value)
  | count
  | addSummary (summary : String)
  | setStrategy (strategy : Strategy)
  | clear
  | markFailed
  | clearFailed

/-- The store after an operation on a record. -/
def WorkflowCall.after (issueId : String) (now : Binary64) (s : Store) : WorkflowCall → Store
  | get => (Store.getWorkflow issueId s).2
  | getStrategy => (Store.getStrategy issueId s).2
  | didJustFail cooldown => (Store.didJustFail issueId cooldown now s).2
  | count => (Store.countFailure issueId now s).2
  | addSummary summary => (Store.addFailureSummary issueId summary now s).2
  | setStrategy strategy => (Store.setStrategy issueId strategy now s).2
  | clear => (Store.clearWorkflow issueId s).2
  | markFailed => (Store.markQaFailed issueId now s).2
  | clearFailed => (Store.clearQaFailed issueId now s).2

lemma WorkflowCall.apart (hother : other ≠ issueId) (call : WorkflowCall) (now : Binary64)
    (s : Store) : s.SameAbout issueId (call.after other now s) := by
  have hread : (Store.getWorkflow other).Keeps (Store.SameAbout issueId) :=
    Store.reading_keeps _ _
  cases call with
  | get => exact hread s
  | getStrategy => exact hread.bind (fun _ => .pure _) s
  | didJustFail cooldown =>
    rw [after, ← Store.didJustFail_keeps other cooldown now s]
    exact refl s
  | count =>
    exact Store.changeWorkflow_apart hother (f := WorkflowState.countFailure) (fun _ => rfl) now s
  | addSummary summary =>
    exact Store.changeWorkflow_apart hother (f := fun x => x.addSummary summary) (fun _ => rfl)
      now s
  | setStrategy strategy =>
    exact Store.changeWorkflow_apart hother (f := fun x => { x with strategy }) (fun _ => rfl)
      now s
  | clear => exact Store.clearWorkflow_apart hother s
  | markFailed => exact Store.markQaFailed_apart hother now s
  | clearFailed => exact Store.clearQaFailed_apart hother now s

/-- The issue that a call of a shelf names. -/
def OverrideShelf.Call.subject : Call → String
  | set issueId _ _ | get issueId | clear issueId | isHeld issueId | priority issueId
  | hasDirective issueId _ => issueId

lemma OverrideShelf.perform_apart (shelf : OverrideShelf) {call : Call}
    (hcall : call.subject ≠ issueId) :
    (shelf.perform call : Run (World ω) Answer).Keeps (World.SameAbout issueId) := by
  cases call with
  | set other d lasting => exact (shelf.set_apart hcall d lasting).bind fun _ => .pure _
  | get other => exact (shelf.get_apart hcall).bind fun _ => .pure _
  | clear other => exact (shelf.clear_apart hcall).bind fun _ => .pure _
  | isHeld other =>
    exact (hasDirective_keeps (shelf.get_apart hcall) .hold).bind fun _ => .pure _
  | priority other => exact (priority_keeps (shelf.get_apart hcall)).bind fun _ => .pure _
  | hasDirective other kind =>
    exact (hasDirective_keeps (shelf.get_apart hcall) kind).bind fun _ => .pure _

/-- An operation that names an issue.  The code outside that takes part in it touches neither the
store nor the overrides of the process. -/
inductive IssueOperation (ω : Type) (issueId : String) where
  | dispatch (b : StoreBacked ω) (quiet : b.tracker.IsQuiet) (issue : Issue)
      (names : issue.id = issueId) (workType : String)
  | evaluate (g : Governor ω) (b : StoreBacked ω) (quiet : b.tracker.IsQuiet)
      (collaborators : g.collaborators = b.collaborators) (issue : Issue)
      (names : issue.id = issueId)
  | handle (g : Governor ω) (b : StoreBacked ω) (quiet : b.tracker.IsQuiet)
      (collaborators : g.collaborators = b.collaborators) (issue : Issue)
      (names : issue.id = issueId)
  | failure (e : Escalation ω) (shelf : OverrideShelf) (installed : e.IsInstalled shelf)
      (identifier : String) (summary : Option String) (cost : Option Binary64)
  | success (e : Escalation ω)
  | directive (e : Escalation ω) (d : Directive)
  | override (shelf : OverrideShelf) (call : OverrideShelf.Call) (names : call.subject = issueId)
  | workflow (call : WorkflowCall)

namespace IssueOperation

/-- The world after an operation. -/
def after (w : World ω) : IssueOperation ω issueId → World ω
  | dispatch b _ issue _ workType => (b.dispatch issue workType w).2
  | evaluate g _ _ _ issue _ => (g.evaluate issue w).2
  | handle g _ _ _ issue _ => (g.handle issue w).2
  | failure e _ _ identifier summary cost =>
    (e.recordFailure issueId identifier summary cost w).2
  | success e => (e.recordSuccess issueId w).2
  | directive e d => (e.apply issueId d w).2
  | override shelf call _ => (shelf.perform call w).2
  | workflow call => { w with store := call.after issueId w.clock w.store }

/-- An operation that names an issue leaves the others alone. -/
lemma apart (hother : other ≠ issueId) (op : IssueOperation ω other) (w : World ω) :
    w.SameAbout issueId (op.after w) := by
  cases op with
  | dispatch b quiet issue names workType =>
    exact StoreBacked.dispatch_apart quiet (names ▸ hother) workType w
  | evaluate g b quiet collaborators issue names =>
    refine Governor.evaluate_keeps (R := World.SameAbout issueId) ?_ w
    rw [collaborators]
    exact StoreBacked.answersKeep_apart (names ▸ hother) quiet
  | handle g b quiet collaborators issue names =>
    refine Governor.handle_keeps_of_answers (R := World.SameAbout issueId) ?_
      (fun action workType => ?_) w
    · rw [collaborators]
      exact StoreBacked.answersKeep_apart (names ▸ hother) quiet
    · rw [collaborators]
      exact StoreBacked.dispatch_apart quiet (names ▸ hother) workType.name
  | failure e shelf installed identifier summary cost =>
    exact installed.recordFailure_apart hother identifier summary cost w
  | success e => exact World.onStoreNow_apart (Store.clearQaFailed_apart hother) w
  | directive e d => exact e.apply_apart hother d w
  | override shelf call names => exact shelf.perform_apart (names ▸ hother) w
  | workflow call => exact ⟨call.apart hother w.clock w.store, rfl⟩

/-- So does a run of operations, as long as none of them names the issue itself. -/
lemma apart_foldl {ops : List ((named : String) × IssueOperation ω named)}
    (hops : ∀ op ∈ ops, op.1 ≠ issueId) (w : World ω) :
    w.SameAbout issueId (ops.foldl (fun w op => op.2.after w) w) := by
  induction ops generalizing w with
  | nil => exact refl w
  | cons op ops ih =>
    obtain ⟨hfirst, hrest⟩ := List.forall_mem_cons.1 hops
    exact trans_of (World.SameAbout issueId) (op.2.apart hfirst w) (ih hrest (op.2.after w))

end IssueOperation

/-! ## Worlds that agree on an issue -/

/-- Two worlds at the same clock reading in which the same is kept about an issue, and whose outside
states are related. -/
structure World.AlikeAbout (O : ω → ω → Prop) (issueId : String) (w w' : World ω) : Prop
    extends w.SameAbout issueId w' where
  clock : w'.clock = w.clock
  outside : O w.outside w'.outside

section About

variable {O : ω → ω → Prop}

namespace World

lemma now_about : (now : Run (World ω) Binary64).Respects (AlikeAbout O issueId) :=
  .read fun _ _ h => h.clock

lemma onStore_about {x : Run Store α} (hx : x.Respects (Store.SameAbout issueId)) :
    (onStore x : Run (World ω) α).Respects (AlikeAbout O issueId) := by
  intro w w' h
  obtain ⟨hresult, hstores⟩ := hx w.store w'.store h.store
  exact ⟨hresult, ⟨hstores, h.overrides⟩, h.clock, h.outside⟩

lemma onStoreNow_about {x : Binary64 → Run Store α}
    (hx : ∀ now, (x now).Respects (Store.SameAbout issueId)) :
    (onStoreNow x : Run (World ω) α).Respects (AlikeAbout O issueId) :=
  now_about.bind fun now => onStore_about (hx now)

end World

namespace OverrideShelf

variable (shelf : OverrideShelf)

/-- Asking what is in force for the issue may remove its override, and does so in both worlds. -/
lemma get_about :
    (shelf.get issueId : Run (World ω) _).Respects (World.AlikeAbout O issueId) := by
  refine get_respects World.now_about ?_ ?_
  · cases shelf with
    | shared => exact World.onStore_about Store.getOverride_about
    | inProcess =>
      refine .read fun w w' h => ?_
      rw [find?_eq_head?_rowsAbout, find?_eq_head?_rowsAbout, h.overrides]
  · cases shelf with
    | shared => exact World.onStore_about Store.removeOverride_about
    | inProcess =>
      exact .modify fun w w' h =>
        ⟨⟨h.store, rowsAbout_removed.trans rowsAbout_removed.symm⟩, h.clock, h.outside⟩

end OverrideShelf

/-- A tracker that, when it is asked about an issue, does not tell worlds apart that agree on it. -/
structure Tracker.IsImpartial (t : Tracker ω) (O : ω → ω → Prop) (issueId : String) : Prop where
  isParentIssue : ∀ check ∈ t.isParentIssue,
    (check issueId).Respects (World.AlikeAbout O issueId)
  prompt : ∀ issue workType, issue.id = issueId →
    (t.prompt issue workType).Respects (World.AlikeAbout O issueId)

namespace StoreBacked

variable {b : StoreBacked ω}

lemma answersRespect_about (hfair : b.tracker.IsImpartial O issueId) :
    b.collaborators.AnswersRespect (World.AlikeAbout O issueId) issueId where
  hasActiveSession := World.onStore_about Store.hasActiveSession_about
  isWithinCooldown := World.onStoreNow_about fun now => Store.didJustFail_about _ now
  isParentIssue := by
    dsimp only [collaborators]
    split
    · exact .pure false
    · rename_i check hcheck
      exact hfair.isParentIssue check hcheck
  isHeld := isHeld_respects b.shelf.get_about
  overridePriority := OverrideShelf.priority_respects b.shelf.get_about
  strategy := World.onStore_about Store.getStrategy_about
  isResearchCompleted := World.onStore_about (Store.isCompleted_about _)
  isBacklogCreationCompleted := World.onStore_about (Store.isCompleted_about _)

end StoreBacked

/-- What is decided about an issue depends on what is kept about it and on nothing else. -/
lemma Governor.evaluate_about {g : Governor ω} {b : StoreBacked ω}
    (hcollaborators : g.collaborators = b.collaborators) {issue : Issue} (hissue : issue.id ≠ "")
    (hfair : b.tracker.IsImpartial O issue.id) :
    (g.evaluate issue).Respects (World.AlikeAbout O issue.id) := by
  refine evaluate_respects World.now_about ?_ ?_
  · rw [hcollaborators]
    exact StoreBacked.answersRespect_about hfair
  · rw [awaiting]
    split
    · exact .pure false
    · exact World.now_about.bind fun _ =>
        (World.onStore_about (Store.pendingTouchpoints_about hissue)).bind fun _ => .pure _

/-! ## Dispatches -/

namespace StoreBacked

/-- What a dispatch asks for once it has an identifier for the session. -/
def prepare (b : StoreBacked ω) (issue : Issue) (workType : String) : Run (World ω) Unit := do
  let _ ← b.workPriority issue.id
  let _ ← b.tracker.prompt issue workType

variable {b : StoreBacked ω} {issue : Issue} {workType : String}

lemma prepare_about (hfair : b.tracker.IsImpartial O issue.id) :
    (b.prepare issue workType).Respects (World.AlikeAbout O issue.id) :=
  (workPriority_respects b.shelf.get_about).bind fun _ =>
    (hfair.prompt issue workType rfl).bind fun _ => .pure ()

/-- A dispatch with a new identifier succeeds exactly if it gets what it asks for, the tables for it
are there, its issue is idle and the clock shows a number. -/
lemma dispatch_eq_ok_iff (hquiet : b.tracker.IsQuiet) {sessionId : String} {w u : World ω}
    (hid : b.tracker.newSessionId w = (.ok sessionId, u))
    (hsession : w.store.findSession sessionId = none)
    (hqueue : w.store.hasQueued sessionId = false) :
    (b.dispatch issue workType w).1 = .ok () ↔
      (b.prepare issue workType u).1 = .ok () ∧ w.store.Has [.sessions, .workQueue] ∧
        w.store.isBusy issue.id = false ∧ w.clock.isNaN = false := by
  have hdrawn := World.OnlyLapsed.of_onlyOutside (hquiet.newSessionId.of_apply_eq hid)
  rw [dispatch_eq, Run.bind_of_ok hid]
  obtain ⟨v, hv, hrank | ⟨e, hrank⟩⟩ := b.workPriority_cases issue.id u
  · rw [prepare, Run.bind_of_ok hrank, Run.bind_of_ok hrank, Run.bind_of_ok (World.now_apply v)]
    rcases hprompt : b.tracker.prompt issue workType v with ⟨e | prompt, v'⟩
    · rw [Run.bind_of_error hprompt, Run.bind_of_error hprompt]
      exact ⟨(fun h => nomatch h), (fun h => nomatch h.1)⟩
    · have hv' : w.OnlyLapsed v' := (hdrawn.trans hv).trans
        (.of_onlyOutside ((hquiet.prompt _ _).of_apply_eq hprompt))
      have hsession' : v'.store.findSession sessionId = none := by
        rwa [Store.findSession, hv'.sessions]
      have hqueue' : v'.store.hasQueued sessionId = false := by
        rwa [Store.hasQueued, hv'.queue]
      rw [Run.bind_of_ok hprompt, Run.bind_of_ok hprompt,
        place_eq_ok_iff (OverridePriority.isStorable_rank _) hsession' hqueue', Store.Has,
        Store.Has, hv'.missing, Store.isBusy, Store.isBusy, hv'.sessions, (hdrawn.trans hv).clock]
      exact ⟨fun h => ⟨rfl, h⟩, And.right⟩
  · rw [prepare, Run.bind_of_error hrank, Run.bind_of_error hrank]
    exact ⟨(fun h => nomatch h), (fun h => nomatch h.1)⟩

end StoreBacked

end About

/-- A tracker that draws an identifier of which the store has not heard yet. -/
def Tracker.DrawsFresh (t : Tracker ω) (w : World ω) : Prop :=
  ∃ sessionId, (t.newSessionId w).1 = .ok sessionId ∧ w.store.findSession sessionId = none ∧
    w.store.hasQueued sessionId = false

/-- With new identifiers, be they the same or not, a dispatch succeeds in both worlds or in none. -/
lemma StoreBacked.dispatch_about {b : StoreBacked ω} (hquiet : b.tracker.IsQuiet)
    {O : ω → ω → Prop} {issue : Issue} (hfair : b.tracker.IsImpartial O issue.id)
    (workType : String) {w w' : World ω} (h : w.AlikeAbout O issue.id w')
    (hfresh : b.tracker.DrawsFresh w) (hfresh' : b.tracker.DrawsFresh w')
    (houtside : O (b.tracker.newSessionId w).2.outside (b.tracker.newSessionId w').2.outside) :
    (b.dispatch issue workType w').1 = .ok () ↔ (b.dispatch issue workType w).1 = .ok () := by
  obtain ⟨sessionId, hid, hsession, hqueue⟩ := hfresh
  obtain ⟨sessionId', hid', hsession', hqueue'⟩ := hfresh'
  obtain ⟨o, ho⟩ := hquiet.newSessionId w
  obtain ⟨o', ho'⟩ := hquiet.newSessionId w'
  have hdrawn : (b.tracker.newSessionId w).2.AlikeAbout O issue.id
      (b.tracker.newSessionId w').2 := by
    refine ⟨?_, ?_, houtside⟩
    · rw [ho, ho']
      exact ⟨h.store, h.overrides⟩
    · rw [ho, ho']
      exact h.clock
  rw [dispatch_eq_ok_iff hquiet (Prod.ext hid' rfl) hsession' hqueue',
    dispatch_eq_ok_iff hquiet (Prod.ext hid rfl) hsession hqueue,
    (prepare_about hfair _ _ hdrawn).1, h.store.has, h.store.isBusy, h.clock]

/-- **Issues do not interfere.**  An operation that names another issue changes nothing that is kept
about this one; and in two worlds that agree on what is kept about this one, the decision about it
and the priority of its override are the same, and its dispatch under a new identifier succeeds in
both or in none. -/
theorem Governor.issues_independent (hissue : issueId ≠ "") (hother : other ≠ issueId)
    {g : Governor ω} {b : StoreBacked ω} (hcollaborators : g.collaborators = b.collaborators)
    (hquiet : b.tracker.IsQuiet) {O : ω → ω → Prop} (hfair : b.tracker.IsImpartial O issueId) :
    (∀ (op : IssueOperation ω other) (w : World ω), w.SameAbout issueId (op.after w)) ∧
      ∀ w w' : World ω, w.AlikeAbout O issueId w' → ∀ issue : Issue, issue.id = issueId →
        (g.evaluate issue w').1 = (g.evaluate issue w).1 ∧
          ∀ workType, b.tracker.DrawsFresh w → b.tracker.DrawsFresh w' →
            O (b.tracker.newSessionId w).2.outside (b.tracker.newSessionId w').2.outside →
              ((b.dispatch issue workType w').1 = .ok () ↔
                (b.dispatch issue workType w).1 = .ok ()) := by
  refine ⟨fun op w => op.apart hother w, fun w w' h issue hnamed => ?_⟩
  subst hnamed
  exact ⟨(evaluate_about hcollaborators hissue hfair w w' h).1, fun workType hfresh hfresh' =>
    StoreBacked.dispatch_about hquiet hfair workType h hfresh hfresh'⟩

/-- A world in which one issue is busy, on hold and waiting for an answer, and another one has just
been given a high priority. -/
def World.divided : World Unit := { fresh with
  store := {
    queue := [{
      sessionId := "r", issueId := "a", issueIdentifier := "a", priority := 1, queuedAt := 0
      workType := "qa" }]
    sessions := [{ sessionId := "r", issueId := "a", createdAt := 0, updatedAt := 0 }]
    overrides := [.ofDirective "a" { kind := .hold } none 0,
      .ofDirective "b" { kind := .priority, priority := some .high } (some 60) 0]
    workflow := [{ issueId := "b", cycleCount := 1, qaFailedAt := none },
      { issueId := "a", cycleCount := 4, strategy := .escalateHuman, qaFailedAt := some 0 }]
    touchpoints := [{
      id := 1, issueId := "a", kind := .reviewRequest, body := "", postedAt := 0
      timeout := some 60 }]
    lastTouchpoint := 1
    phases := [⟨"a", "research", none, 0⟩] } }

/-- The same world without the issue that is busy. -/
def World.undivided : World Unit := { fresh with
  store := {
    overrides := [.ofDirective "b" { kind := .priority, priority := some .high } (some 60) 0]
    workflow := [{ issueId := "b", cycleCount := 1, qaFailedAt := none }] } }

/-- A governor with the standard settings that waits for answers to its touchpoints. -/
def Governor.patient : Governor Unit :=
  { standard (.fixed [] "s") with escalation := some .standard }

/-- The second issue is sent to development at a high priority in both worlds, and nothing that is
done for the first one touches what is kept about it. -/
theorem Governor.issues_independent_divided :
    (patient.evaluate (.inBacklog "b") World.divided).1 =
        .ok (.act .triggerDevelopment .inBacklog, some .high) ∧
      (∀ op : IssueOperation Unit "a", World.divided.SameAbout "b" (op.after World.divided)) ∧
      (patient.evaluate (.inBacklog "b") World.undivided).1 =
        (patient.evaluate (.inBacklog "b") World.divided).1 ∧
      (((.fixed [] "s" : StoreBacked Unit).dispatch (.inBacklog "b") "development"
          World.undivided).1 = .ok () ↔
        ((.fixed [] "s" : StoreBacked Unit).dispatch (.inBacklog "b") "development"
          World.divided).1 = .ok ()) := by
  have hfair : (Tracker.fixed [] "s" : Tracker Unit).IsImpartial Eq "b" :=
    ⟨(fun _ hcheck => nomatch hcheck), fun _ _ _ => .pure none⟩
  have halike : World.divided.AlikeAbout Eq "b" World.undivided :=
    ⟨⟨⟨rfl, rfl, rfl, rfl, rfl, rfl, rfl⟩, rfl⟩, rfl, rfl⟩
  obtain ⟨hkept, htold⟩ := issues_independent (by decide : "b" ≠ "") (by decide : "a" ≠ "b")
    (g := patient) rfl (Tracker.isQuiet_fixed [] "s") hfair
  obtain ⟨hdecided, hplaced⟩ := htold World.divided World.undivided halike (.inBacklog "b") rfl
  exact ⟨by decide +kernel, fun op => hkept op World.divided, hdecided,
    hplaced "development" ⟨"s", rfl, rfl, rfl⟩ ⟨"s", rfl, rfl, rfl⟩ rfl⟩

end IssueDispatch
