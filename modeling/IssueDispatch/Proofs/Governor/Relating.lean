import IssueDispatch.Governor.Events
import IssueDispatch.Proofs.Governor.Questions
import IssueDispatch.Proofs.Relating

/-!
# Scans and events in related worlds

A governor learns about the store only through the answers of its collaborators, through its manager
of escalation and, if it listens to events, through a bus and a deduplicator.  If all of these give
the same answers in related stores then the governor does the same in both, whether it evaluates an
issue, scans its projects or handles an event, and the stores stay related.  Whatever else there is
in a world, the clock included, is the same in both worlds.
-/

namespace IssueDispatch

variable {ω α : Type} {R : Store → Store → Prop}

/-- Collaborators that give the same answers about an issue in related worlds. -/
structure Collaborators.AnswersRespect (c : Collaborators ω) (R : World ω → World ω → Prop)
    (issueId : String) : Prop where
  hasActiveSession : (c.hasActiveSession issueId).Respects R
  isWithinCooldown : (c.isWithinCooldown issueId).Respects R
  isParentIssue : (c.isParentIssue issueId).Respects R
  isHeld : (c.isHeld issueId).Respects R
  overridePriority : (c.overridePriority issueId).Respects R
  strategy : (c.strategy issueId).Respects R
  isResearchCompleted : (c.isResearchCompleted issueId).Respects R
  isBacklogCreationCompleted : (c.isBacklogCreationCompleted issueId).Respects R

/-- Collaborators that do the same in related worlds. -/
structure Collaborators.Respect (c : Collaborators ω) (R : World ω → World ω → Prop) : Prop where
  listIssues : ∀ project, (c.listIssues project).Respects R
  answers : ∀ issueId, c.AnswersRespect R issueId
  dispatch : ∀ issue action workType, (c.dispatch issue action workType).Respects R

/-- A manager that does the same for a governor in related worlds. -/
structure Escalation.Respects (e : Escalation ω) (R : World ω → World ω → Prop) : Prop where
  apply : ∀ issueId d, (e.apply issueId d).Respects R
  isAwaiting : ∀ issueId, (e.isAwaiting issueId none).Respects R
  processTimeouts : (e.processTimeouts none).Respects R

/-- A governor that works with nothing but what does the same in related worlds. -/
structure Governor.Respects (g : Governor ω) (R : World ω → World ω → Prop) : Prop where
  collaborators : g.collaborators.Respect R
  escalation : ∀ e ∈ g.escalation, e.Respects R
  onScanComplete : ∀ results, (g.onScanComplete results).Respects R
  onError : ∀ fault, (g.onError fault).Respects R

/-! ## Overrides -/

namespace StoreBacked

variable {b : StoreBacked ω} {S : World ω → World ω → Prop} {issueId : String}
  (hget : (b.shelf.get issueId).Respects S)

include hget

lemma isHeld_respects : (b.isHeld issueId).Respects S :=
  (OverrideShelf.hasDirective_respects hget .hold).bind fun _ =>
    .ite (.pure true) (OverrideShelf.hasDirective_respects hget .reassign)

lemma workPriority_respects : (b.workPriority issueId).Respects S :=
  (OverrideShelf.priority_respects hget).bind fun _ => .pure _

end StoreBacked

namespace Governor

variable {g : Governor ω}

/-! ## Issues -/

section Answers

variable {S : World ω → World ω → Prop} {issue : Issue}
  (hnow : (World.now : Run (World ω) _).Respects S)
  (hanswers : g.collaborators.AnswersRespect S issue.id)
  (hawaiting : (g.awaiting issue.id).Respects S)

include hnow hanswers hawaiting

/-- Gathering the facts about an issue looks at nothing but the clock and the answers. -/
lemma gather_respects : (g.gather issue).Respects S := by
  refine hanswers.hasActiveSession.attempt.bind fun _ => ?_
  refine hanswers.isHeld.attempt.bind fun _ => ?_
  refine hanswers.isWithinCooldown.attempt.bind fun _ => ?_
  refine hanswers.isParentIssue.attempt.bind fun _ => ?_
  refine hanswers.strategy.attempt.bind fun _ => ?_
  refine hanswers.isResearchCompleted.attempt.bind fun _ => ?_
  refine hanswers.isBacklogCreationCompleted.attempt.bind fun _ => ?_
  refine hawaiting.attempt.bind fun _ => ?_
  refine hanswers.overridePriority.attempt.bind fun _ => ?_
  -- What follows reads the clock and reports the first fault.
  iterate 8 refine (Run.Respects.ofExcept _).bind fun _ => ?_
  refine hnow.bind fun _ => ?_
  exact (Run.Respects.ofExcept _).bind fun _ => .pure _

lemma evaluate_respects : (g.evaluate issue).Respects S :=
  (gather_respects hnow hanswers hawaiting).bind fun _ =>
    (Run.Respects.ofExcept _).bind fun _ => .pure _

end Answers

lemma report_respects (hreport : ∀ fault, (g.onError fault).Respects (World.Alike R))
    (fault : Fault) : (g.report fault).Respects (World.Alike R) :=
  (hreport fault).attempt.bind fun _ => .pure ()

lemma isRunning_respects (g : Governor ω) : g.isRunning.Respects (World.Alike R) :=
  .read fun _ _ h => by rw [h.frame]

namespace Respects

variable (hg : g.Respects (World.Alike R))

include hg

lemma awaiting (issueId : String) : (g.awaiting issueId).Respects (World.Alike R) := by
  rw [Governor.awaiting]
  split
  · exact .pure false
  · rename_i e he
    exact (hg.escalation e he).isAwaiting issueId

lemma evaluate (issue : Issue) : (g.evaluate issue).Respects (World.Alike R) :=
  evaluate_respects World.now_respects (hg.collaborators.answers issue.id) (hg.awaiting issue.id)

lemma dispatch (issue : Issue) (d : Decision) :
    (g.dispatch issue d).Respects (World.Alike R) := by
  cases d with
  | skip reason => exact .pure ()
  | dispatch action workType reason => exact hg.collaborators.dispatch issue action workType

lemma handle (issue : Issue) : (g.handle issue).Respects (World.Alike R) := by
  refine (hg.evaluate issue).bind fun (decision, _) => ?_
  refine (hg.dispatch issue decision).attempt.bind fun result => ?_
  split
  · exact .pure _
  · exact .pure _
  · exact .throw _

/-! ## Scans -/

lemma evaluateAll (issues : List Issue) (r : ScanResult) :
    (g.evaluateAll issues r).Respects (World.Alike R) := by
  induction issues generalizing r with
  | nil => exact .pure _
  | cons issue rest ih =>
    refine (hg.evaluate issue).attempt.bind fun result => ?_
    split
    · exact ih _
    · exact ih _
    · exact (ih _).bind fun _ => .pure _

lemma dispatchAll (as : List Actionable) (r : ScanResult) :
    (g.dispatchAll as r).Respects (World.Alike R) := by
  induction as generalizing r with
  | nil => exact .pure r
  | cons a rest ih =>
    rw [Governor.dispatchAll]
    refine .ite (ih _) ((hg.dispatch a.issue a.decision).attempt.bind fun result => ?_)
    split
    · exact ih _
    · exact ih _
    · exact ih _

lemma scanProject (project : Value) : (g.scanProject project).Respects (World.Alike R) := by
  refine (hg.collaborators.listIssues project).attempt.bind fun listing => ?_
  split
  · exact .pure _
  · exact .throw _
  · exact (hg.evaluateAll _ _).bind fun _ => hg.dispatchAll _ _

lemma processTimeouts : g.processTimeouts.Respects (World.Alike R) := by
  rw [Governor.processTimeouts]
  split
  · exact .pure []
  · rename_i e he
    refine (hg.escalation e he).processTimeouts.attempt.bind fun result => ?_
    split
    · exact .pure _
    · exact (report_respects hg.onError _).bind fun _ => .pure []

/-- A scan does the same in both worlds. -/
lemma scan : g.scan.Respects (World.Alike R) := by
  have hall : g.scanAll.Respects (World.Alike R) :=
    hg.processTimeouts.bind fun _ => .mapM hg.scanProject g.settings.projects
  have hwhile : (g.whileScanning g.scanAll).Respects (World.Alike R) := by
    have hmark (f : World ω → List GovernorId) (hf : ∀ w s, f { w with store := s } = f w) :
        (modify fun w => { w with scanning := f w } : Run (World ω) Unit).Respects
          (World.Alike R) :=
      World.modify_respects (fun w s => by rw [hf]) fun _ => rfl
    refine (hmark (fun w => g.id :: w.scanning) fun _ _ => rfl).bind fun _ => ?_
    refine hall.attempt.bind fun results => ?_
    exact (hmark (fun w => w.scanning.filter (· != g.id)) fun _ _ => rfl).bind fun _ =>
      .ofExcept results
  have hscanning : g.isScanning.Respects (World.Alike R) := .read fun _ _ h => by rw [h.frame]
  refine hscanning.bind fun isScanning => .ite (.pure []) ?_
  exact hwhile.bind fun results => (hg.onScanComplete results).attempt.bind fun _ => .pure _

end Respects

end Governor

/-! ## Events -/

namespace Bus

variable {b : Bus} (hevents : Store.EventsRespect R)

lemma onMemory_respects (x : Run MemoryBus α) :
    (onMemory x : Run (World ω) α).Respects (World.Alike R) := by
  intro w w' h
  rw [h.frame]
  exact ⟨rfl, h.store, rfl⟩

include hevents

lemma publish_respects (e : Event) :
    (b.publish e : Run (World ω) String).Respects (World.Alike R) := by
  cases b with
  | inProcess => exact onMemory_respects _
  | stored visibility =>
    have hkept : (World.onStoreNow (Store.publishEvent e) : Run (World ω) Nat).Respects
        (World.Alike R) := World.onStoreNow_respects (hevents.publish e)
    refine .get_bind (fun w w' h => by rw [h.frame]) fun w => ?_
    exact .ite ((Run.Respects.throw _).bind fun _ => hkept.bind fun _ => .pure _)
      (hkept.bind fun _ => .pure _)

lemma ack_respects (id : String) :
    (b.ack id : Run (World ω) Unit).Respects (World.Alike R) := by
  cases b with
  | inProcess => exact onMemory_respects _
  | stored visibility =>
    exact (Run.Respects.ofExcept _).bind fun n => World.onStoreNow_respects (hevents.ack n)

lemma nextStored_respects (fuel : Nat) (visibility : Binary64) :
    (nextStored fuel visibility : Run (World ω) Delivery).Respects (World.Alike R) := by
  induction fuel with
  | zero => exact .pure _
  | succ fuel ih =>
    refine (World.onStoreNow_respects (hevents.deliver visibility)).bind fun delivered => ?_
    rcases delivered with - | ⟨id, payload⟩
    · exact .pure _
    · refine World.now_respects.bind fun now => ?_
      split
      · exact .pure _
      · exact .ite ((World.onStoreNow_respects (hevents.ack id)).bind fun _ => ih) (.throw _)

lemma next_respects : (b.next : Run (World ω) Delivery).Respects (World.Alike R) := by
  cases b with
  | inProcess => exact onMemory_respects _
  | stored visibility =>
    refine .get_bind (fun w w' h => ?_) fun w => ?_
    · rw [hevents.events _ _ h.store, h.frame]
    · exact .ite (.pure _) (nextStored_respects hevents _ visibility)

end Bus

namespace EventGovernor

variable {g : EventGovernor ω}

section Events

variable (hevents : Store.EventsRespect R)

include hevents

lemma isRepeat_respects (e : Event) : (g.isRepeat e).Respects (World.Alike R) := by
  rw [isRepeat]
  split
  · exact .pure false
  · rename_i d _
    refine (Run.Respects.ofExcept _).bind fun window => ?_
    cases d with
    | inProcess usual =>
      intro w w' h
      rw [h.frame]
      exact ⟨rfl, h.store, rfl⟩
    | stored usual => exact World.onStoreNow_respects (hevents.seen e.key window)

lemma publishSnapshots_respects (project : Value) (issues : List Issue) (n : Nat) :
    (g.publishSnapshots project issues n).Respects (World.Alike R) := by
  induction issues generalizing n with
  | nil => exact .pure _
  | cons issue rest ih =>
    refine Run.Respects.bind (Run.Respects.attempt ?_) fun result => ?_
    · exact World.now_respects.bind fun _ => (Run.Respects.ofExcept _).bind fun _ =>
        (Bus.publish_respects hevents _).bind fun _ => .pure ()
    · split
      · exact ih _
      · exact .pure _

end Events

section Governor

variable (hg : g.Respects (World.Alike R))

include hg

lemma react_respects (e : Event) : (g.react e).Respects (World.Alike R) := by
  have hlook : (g.handle e.issue >>= fun _ => pure () : Run (World ω) Unit).Respects
      (World.Alike R) := (hg.handle e.issue).bind fun _ => .pure ()
  rw [react]
  split
  · rw [handleComment]
    split
    · rename_i d manager _ hmanager
      exact ((hg.escalation manager hmanager).apply e.issueId d).bind fun _ => .ite hlook (.pure ())
    · exact hlook
  · exact hlook

variable (hevents : Store.EventsRespect R)

include hevents

/-- The handling of an event does the same in both worlds. -/
lemma process_respects (id : String) (e? : Option Event) :
    (g.process id e?).Respects (World.Alike R) := by
  have hack : (g.bus.ack id : Run (World ω) Unit).Respects (World.Alike R) :=
    Bus.ack_respects hevents id
  rcases e? with - | e
  · exact hack
  · refine (isRepeat_respects hevents e).bind fun isRepeat => ?_
    cases isRepeat with
    | true => exact hack
    | false => exact (react_respects hg e).bind fun _ => hack

/-- The next event is taken and handled alike in both worlds. -/
lemma consume_respects : g.consume.Respects (World.Alike R) := by
  have hrunning : g.isRunning.Respects (World.Alike R) := g.isRunning_respects
  refine (Bus.next_respects hevents).attempt.bind fun next => ?_
  split
  · refine hrunning.bind fun _ => ?_
    exact .ite ((Governor.report_respects hg.onError _).bind fun _ => .pure _) (.pure _)
  · exact .pure _
  · exact .pure _
  · refine hrunning.bind fun _ => .ite (.pure _) ?_
    refine (process_respects hg hevents _ _).attempt.bind fun result => ?_
    split
    · exact .pure _
    · exact (Governor.report_respects hg.onError _).bind fun _ => .pure _
  · exact hrunning.bind fun _ => .ite (.pure _)
      ((Governor.report_respects hg.onError _).bind fun _ => .pure _)

/-- A sweep publishes the same in both worlds. -/
lemma sweep_respects : g.sweep.Respects (World.Alike R) := by
  refine Run.Respects.bind (.mapM (fun project => ?_) _) fun _ => .pure _
  refine (hg.collaborators.listIssues project).attempt.bind fun listing => ?_
  split
  · exact (publishSnapshots_respects hevents project _ 0).bind fun _ => .pure _
  · exact .pure 0

end Governor

end EventGovernor

end IssueDispatch
