import IssueDispatch.Proofs.Governor.Relating
import IssueDispatch.Proofs.Governor.Steering
import IssueDispatch.Proofs.Number.Rounding
import IssueDispatch.Proofs.Standard
import IssueDispatch.Proofs.Store.Touchpoints

/-!
# A fresh start

An order to resume clears the override of its issue and the record of its failed cycles, and answers
its open touchpoints.  The rows of these stay in the store, but nobody looks at a row that is no
longer open.  So from then on nothing tells the issue from one that was forgotten altogether,
`World.forgotten`, whatever happens to it or to others.

A `Request` is one of the things that may be asked of governors and managers around a store, and
`World.answers` gives the replies to a list of them.  What comes from outside, the tracker, the
callbacks and the comments that are posted, is code of its own; of it must be known that it leaves
the rows of touchpoints alone and does not look at them.
-/

namespace IssueDispatch

variable {ω α : Type}

/-! ## What is blind to touchpoints -/

/-- The world with other touchpoints. -/
def World.withTouchpoints (w : World ω) (ts : List Touchpoint) : World ω :=
  { w with store := w.store.withTouchpoints ts }

/-- A computation that neither looks at the touchpoints nor touches them. -/
def Run.IsBlind (x : Run (World ω) α) : Prop :=
  ∀ w ts, x (w.withTouchpoints ts) = ((x w).1, (x w).2.withTouchpoints ts)

/-- What is blind does the same in worlds that are the same but for closed touchpoints. -/
lemma Run.IsBlind.respects {x : Run (World ω) α} (hx : x.IsBlind) :
    x.Respects (World.Alike Store.SameButClosed) := by
  intro w w' h
  have hkept : (x w).2.store.touchpoints = w.store.touchpoints :=
    congrArg (fun p : Except Fault α × World ω => p.2.store.touchpoints)
      (hx w w.store.touchpoints)
  have hworlds : w' = w.withTouchpoints w'.store.touchpoints :=
    h.frame.trans (congrArg (fun store => ({ w with store } : World ω)) h.store.frame)
  rw [hworlds, hx]
  refine ⟨rfl, ⟨rfl, ?_⟩, rfl⟩
  change w'.store.touchpoints.filter Touchpoint.isOpen = _
  rw [hkept]
  exact h.store.isOpen

/-- A tracker that has nothing to do with touchpoints. -/
structure Tracker.IsBlind (t : Tracker ω) : Prop where
  listIssues : ∀ project, (t.listIssues project).IsBlind
  isParentIssue : ∀ check ∈ t.isParentIssue, ∀ issueId, (check issueId).IsBlind
  prompt : ∀ issue workType, (t.prompt issue workType).IsBlind
  newSessionId : t.newSessionId.IsBlind

/-- A manager whose comments have nothing to do with the stored touchpoints. -/
def Escalation.IsBlind (e : Escalation ω) : Prop :=
  ∀ post ∈ e.postComment, ∀ issueId body, (post issueId body).IsBlind

/-- A governor that answers from the shared store, and whose tracker and callbacks have nothing to
do with touchpoints. -/
structure Governor.IsBlind (g : Governor ω) (b : StoreBacked ω) : Prop where
  collaborators : g.collaborators = b.collaborators
  tracker : b.tracker.IsBlind
  onScanComplete : ∀ results, (g.onScanComplete results).IsBlind
  onError : ∀ fault, (g.onError fault).IsBlind

/-! ## Collaborators -/

namespace StoreBacked

variable {b : StoreBacked ω}

lemma get_respects (b : StoreBacked ω) (issueId : String) :
    (b.shelf.get issueId : Run (World ω) _).Respects (World.Alike Store.SameButClosed) :=
  OverrideShelf.get_respects World.now_respects
    (OverrideShelf.find_respects (Store.getOverride_blind _))
    (OverrideShelf.clear_respects (Store.removeOverride_blind _))

lemma place_respects (issue : Issue) (workType sessionId : String) (priority : Nat)
    (prompt : Option String) (now : Binary64) :
    (place issue workType sessionId priority prompt now : Run (World ω) Unit).Respects
      (World.Alike Store.SameButClosed) := by
  have hfail (error : String) : (do
      let _ ← World.onStore (Store.updateStatus sessionId .failed none (some error) now)
      : Run (World ω) Unit).Respects (World.Alike Store.SameButClosed) :=
    (World.onStore_respects (Store.updateStatus_blind _ _ _ _ now)).bind fun _ => .pure ()
  refine (World.onStore_respects (Store.createIfIdle_blind _ now)).attempt.bind fun created => ?_
  split
  · exact .throw _
  · exact .throw _
  · refine (World.onStore_respects (Store.enqueue_blind _)).attempt.bind fun queued => ?_
    split
    · exact .pure ()
    · exact (hfail _).bind fun _ => .throw _
    · exact .ite ((hfail _).bind fun _ => .throw _) (.throw _)

lemma dispatch_respects (htracker : b.tracker.IsBlind) (issue : Issue) (workType : String) :
    (b.dispatch issue workType).Respects (World.Alike Store.SameButClosed) := by
  rw [dispatch_eq]
  refine htracker.newSessionId.respects.bind fun sessionId => ?_
  refine (workPriority_respects (b.get_respects issue.id)).bind fun priority => ?_
  refine World.now_respects.bind fun now => ?_
  exact (htracker.prompt issue workType).respects.bind fun prompt =>
    place_respects _ _ _ _ prompt now

/-- What a governor asks of the store has nothing to do with touchpoints. -/
lemma respect_collaborators (htracker : b.tracker.IsBlind) :
    b.collaborators.Respect (World.Alike Store.SameButClosed) where
  listIssues project := (htracker.listIssues project).respects
  answers issueId := {
    hasActiveSession := World.onStore_respects (Store.reading_blind _ fun _ _ => rfl)
    isWithinCooldown := World.onStoreNow_respects fun now => Store.didJustFail_blind _ _ now
    isParentIssue := by
      unfold collaborators
      dsimp only
      split
      · exact .pure false
      · rename_i check hcheck
        exact (htracker.isParentIssue check hcheck issueId).respects
    isHeld := isHeld_respects (b.get_respects issueId)
    overridePriority := OverrideShelf.priority_respects (b.get_respects issueId)
    strategy :=
      World.onStore_respects ((Store.getWorkflow_blind issueId).bind fun _ => .pure _)
    isResearchCompleted := World.onStore_respects (Store.reading_blind _ fun _ _ => rfl)
    isBacklogCreationCompleted := World.onStore_respects (Store.reading_blind _ fun _ _ => rfl) }
  dispatch issue _ workType := dispatch_respects htracker issue workType.name

end StoreBacked

/-! ## Escalation -/

namespace Escalation

variable {e : Escalation ω}

lemma apply_respects (e : Escalation ω) (issueId : String) (d : Directive) :
    (e.apply issueId d).Respects (World.Alike Store.SameButClosed) := by
  have hset : (e.shelf.set issueId d none : Run (World ω) _).Respects
      (World.Alike Store.SameButClosed) := OverrideShelf.set_respects Store.putOverride_blind d none
  have hclear : (e.shelf.clear issueId : Run (World ω) _).Respects
      (World.Alike Store.SameButClosed) :=
    OverrideShelf.clear_respects (Store.removeOverride_blind issueId)
  have hdecompose : (World.onStoreNow (Store.setStrategy issueId .decompose) :
      Run (World ω) _).Respects (World.Alike Store.SameButClosed) :=
    World.onStoreNow_respects fun now => Store.changeWorkflow_blind issueId _ now
  rw [apply_eq]
  refine (World.onStoreNow_respects (Store.markResponded_respects issueId)).bind fun _ => ?_
  refine Run.Respects.bind (.ite hclear (hset.bind fun _ => .pure ())) fun _ => ?_
  exact .ite (World.onStore_respects (Store.clearWorkflow_blind issueId))
    (.ite (hdecompose.bind fun _ => .pure ()) (.pure ()))

lemma isAwaiting_respects (e : Escalation ω) (issueId : String) (now? : Option Binary64) :
    (e.isAwaiting issueId now?).Respects (World.Alike Store.SameButClosed) :=
  World.now_respects.bind fun _ =>
    (World.onStore_respects (Store.pendingTouchpoints_respects _)).bind fun _ => .pure _

lemma proceed_respects {now : Binary64} {ns : List Notification}
    (hover : ∀ n ∈ ns, n.hasTimedOut now = true) :
    (proceed ns now : Run (World ω) _).Respects (World.Alike Store.SameButClosed) := by
  induction ns with
  | nil => exact .pure []
  | cons n rest ih =>
    obtain ⟨hn, hrest⟩ := List.forall_mem_cons.1 hover
    have hnow : now.isNaN = false := by
      simp only [Notification.hasTimedOut, Bool.and_eq_true, decide_eq_true_eq] at hn
      exact Binary64.isNaN_of_lt hn.2
    rw [proceed]
    split
    · exact ih hrest
    · rename_i action _
      have hdone : (proceed rest now >>= fun ns => pure ((n, action) :: ns) :
          Run (World ω) _).Respects (World.Alike Store.SameButClosed) :=
        (ih hrest).bind fun _ => .pure _
      have hdecompose : (World.onStoreNow (Store.setStrategy n.issueId .decompose) :
          Run (World ω) _).Respects (World.Alike Store.SameButClosed) :=
        World.onStoreNow_respects fun now => Store.changeWorkflow_blind n.issueId _ now
      refine (World.onStore_respects (Store.markAutoProceeded_respects _ hnow)).bind fun _ => ?_
      exact .ite (hdecompose.bind fun _ => hdone) hdone

lemma processTimeouts_respects (e : Escalation ω) (now? : Option Binary64) :
    (e.processTimeouts now?).Respects (World.Alike Store.SameButClosed) :=
  World.now_respects.bind fun _ =>
    (World.onStore_respects (Store.pendingTouchpoints_respects _)).bind fun _ =>
      proceed_respects fun _ hn => (List.mem_filter.1 hn).2

lemma recordFailure_respects (he : e.IsBlind) (issueId identifier : String)
    (summary : Option String) (cost : Option Binary64) :
    (e.recordFailure issueId identifier summary cost).Respects
      (World.Alike Store.SameButClosed) := by
  have hchange (f : WorkflowState → WorkflowState) (now : Binary64) :
      (World.onStore (Store.changeWorkflow issueId f now) : Run (World ω) _).Respects
        (World.Alike Store.SameButClosed) :=
    World.onStore_respects (Store.changeWorkflow_blind issueId f now)
  have hannounce (n : Notification) :
      (e.announce issueId n).Respects (World.Alike Store.SameButClosed) := by
    refine (World.onStore_respects (Store.saveTouchpoint_respects issueId _)).bind fun n => ?_
    rcases hpost : e.postComment with - | post
    · exact .pure _
    · exact (he post hpost issueId n.body).respects.bind fun _ => .pure _
  rw [recordFailure_eq]
  refine World.now_respects.bind fun now => ?_
  refine (World.onStore_respects (Store.markQaFailed_blind issueId now)).bind fun _ => ?_
  refine Run.Respects.bind ?_ fun _ => (hchange _ now).bind fun state => ?_
  · unfold noteSummary
    split
    · exact .pure ()
    · exact .pure ()
    · exact (hchange _ now).bind fun _ => .pure ()
  · refine (Run.Respects.ofExcept _).bind fun n? => ?_
    cases n? with
    | none => exact .pure none
    | some n =>
      exact .ite ((OverrideShelf.set_respects Store.putOverride_blind _ _).bind fun _ =>
        hannounce n) (hannounce n)

/-- A manager does the same for a governor whatever closed touchpoints there are. -/
lemma respects_sameButClosed (e : Escalation ω) :
    e.Respects (World.Alike Store.SameButClosed) where
  apply := e.apply_respects
  isAwaiting issueId := e.isAwaiting_respects issueId none
  processTimeouts := e.processTimeouts_respects none

end Escalation

lemma Governor.IsBlind.respects {g : Governor ω} {b : StoreBacked ω} (hg : g.IsBlind b) :
    g.Respects (World.Alike Store.SameButClosed) where
  collaborators := by
    rw [hg.collaborators]
    exact StoreBacked.respect_collaborators hg.tracker
  escalation e _ := e.respects_sameButClosed
  onScanComplete results := (hg.onScanComplete results).respects
  onError fault := (hg.onError fault).respects

/-! ## Requests -/

/-- Something that is asked of the governors and managers around a store, or happens beside them
without regard to touchpoints. -/
inductive Request (ω : Type) where
  | failure (e : Escalation ω) (blind : e.IsBlind) (issueId identifier : String)
      (summary : Option String) (cost : Option Binary64)
  | success (e : Escalation ω) (issueId : String)
  | directive (e : Escalation ω) (issueId : String) (d : Directive)
  | timeouts (e : Escalation ω) (now? : Option Binary64)
  | awaiting (e : Escalation ω) (issueId : String) (now? : Option Binary64)
  | evaluation (g : Governor ω) (b : StoreBacked ω) (blind : g.IsBlind b) (issue : Issue)
  | scan (g : Governor ω) (b : StoreBacked ω) (blind : g.IsBlind b)
  | event (g : EventGovernor ω) (b : StoreBacked ω) (blind : g.IsBlind b) (id : String)
      (e? : Option Event)
  | consumption (g : EventGovernor ω) (b : StoreBacked ω) (blind : g.IsBlind b)
  | sweep (g : EventGovernor ω) (b : StoreBacked ω) (blind : g.IsBlind b)
  | elsewhere (x : Run (World ω) Unit) (blind : x.IsBlind)

/-- What is said in reply to a request. -/
inductive Reply where
  | done
  | posted (n : Option Notification)
  | proceeded (ns : List (Notification × DefaultAction))
  | awaits (answer : Bool)
  | decided (d : Decision) (priority : Option OverridePriority)
  | scanned (results : List ScanResult)
  | consumed (step : ConsumerStep)
  | published (n : Nat)

/-- Does what is asked. -/
def Request.serve : Request ω → Run (World ω) Reply
  | failure e _ issueId identifier summary cost => do
    return .posted (← e.recordFailure issueId identifier summary cost)
  | success e issueId => do
    e.recordSuccess issueId
    return .done
  | directive e issueId d => do
    e.apply issueId d
    return .done
  | timeouts e now? => do
    return .proceeded (← e.processTimeouts now?)
  | awaiting e issueId now? => do
    return .awaits (← e.isAwaiting issueId now?)
  | evaluation g _ _ issue => do
    let (d, priority) ← g.evaluate issue
    return .decided d priority
  | scan g _ _ => do
    return .scanned (← g.scan)
  | event g _ _ id e? => do
    g.process id e?
    return .done
  | consumption g _ _ => do
    return .consumed (← g.consume)
  | sweep g _ _ => do
    return .published (← g.sweep)
  | elsewhere x _ => do
    x
    return .done

/-- Whatever is asked is done alike in worlds that are the same but for closed touchpoints. -/
lemma Request.serve_respects (r : Request ω) :
    r.serve.Respects (World.Alike Store.SameButClosed) := by
  cases r with
  | failure e blind issueId identifier summary cost =>
    exact (e.recordFailure_respects blind issueId identifier summary cost).bind fun _ => .pure _
  | success e issueId =>
    exact (World.onStoreNow_respects fun now => Store.clearQaFailed_blind issueId now).bind
      fun _ => .pure _
  | directive e issueId d => exact (e.apply_respects issueId d).bind fun _ => .pure _
  | timeouts e now? => exact (e.processTimeouts_respects now?).bind fun _ => .pure _
  | awaiting e issueId now? => exact (e.isAwaiting_respects issueId now?).bind fun _ => .pure _
  | evaluation g b blind issue => exact (blind.respects.evaluate issue).bind fun _ => .pure _
  | scan g b blind => exact blind.respects.scan.bind fun _ => .pure _
  | event g b blind id e? =>
    exact (EventGovernor.process_respects blind.respects Store.eventsRespect_sameButClosed id
      e?).bind fun _ => .pure _
  | consumption g b blind =>
    exact (EventGovernor.consume_respects blind.respects Store.eventsRespect_sameButClosed).bind
      fun _ => .pure _
  | sweep g b blind =>
    exact (EventGovernor.sweep_respects blind.respects Store.eventsRespect_sameButClosed).bind
      fun _ => .pure _
  | elsewhere x blind => exact blind.respects.bind fun _ => .pure _

namespace World

/-- The replies to requests that are served one after the other, each at a clock reading of its own,
and the world afterwards. -/
def answers : World ω → List (Binary64 × Request ω) → List (Except Fault Reply) × World ω
  | w, [] => ([], w)
  | w, (clock, r) :: rest =>
    let (reply, w) := r.serve { w with clock }
    let (replies, w) := w.answers rest
    (reply :: replies, w)

lemma answers_cons (w : World ω) (clock : Binary64) (r : Request ω)
    (rest : List (Binary64 × Request ω)) :
    w.answers ((clock, r) :: rest) =
      ((r.serve { w with clock }).1 :: ((r.serve { w with clock }).2.answers rest).1,
        ((r.serve { w with clock }).2.answers rest).2) := rfl

/-- Worlds that are the same but for closed touchpoints answer alike and stay so. -/
lemma answers_respects {w w' : World ω} (h : Alike Store.SameButClosed w w')
    (rs : List (Binary64 × Request ω)) :
    (w'.answers rs).1 = (w.answers rs).1 ∧
      Alike Store.SameButClosed (w.answers rs).2 (w'.answers rs).2 := by
  induction rs generalizing w w' with
  | nil => exact ⟨rfl, h⟩
  | cons r rest ih =>
    obtain ⟨clock, r⟩ := r
    have hclocks : Alike Store.SameButClosed { w with clock } { w' with clock } := by
      refine ⟨h.store, ?_⟩
      rw [h.frame]
    obtain ⟨hreply, hworlds⟩ := r.serve_respects _ _ hclocks
    obtain ⟨hreplies, hend⟩ := ih hworlds
    refine ⟨?_, hend⟩
    rw [answers_cons, answers_cons, hreply, hreplies]

/-- The world in which an issue has neither an override on a shelf, nor a record of failed cycles,
nor a touchpoint.  The numbers of the touchpoints that are gone are not used again. -/
def forgotten (w : World ω) (shelf : OverrideShelf) (issueId : String) : World ω :=
  let others (os : List Override) : List Override := os.filter fun o => o.issueId != issueId
  { w with
    overrides := if shelf = .inProcess then others w.overrides else w.overrides
    store := { w.store with
      overrides := if shelf = .shared then others w.store.overrides else w.store.overrides
      workflow := w.store.workflow.filter fun x => x.issueId != issueId
      touchpoints := w.store.touchpoints.filter fun t => t.issueId != issueId } }

/-- The same overrides are kept and the same failed cycles are on record. -/
structure SameSteering (w w' : World ω) : Prop where
  kept : ∀ shelf : OverrideShelf, shelf.kept w' = shelf.kept w
  workflow : w'.store.workflow = w.store.workflow

lemma SameSteering.of_alike {w w' : World ω} (h : Alike Store.SameButClosed w w') :
    SameSteering w w' where
  kept shelf := by
    rw [h.frame]
    cases shelf with
    | shared =>
      rw [h.store.frame]
      rfl
    | inProcess => rfl
  workflow := by
    rw [h.store.frame]
    rfl

end World

/-- An order to resume leaves the issue forgotten but for the rows of its touchpoints, all of which
are closed from then on. -/
lemma Escalation.apply_of_resume (e : Escalation ω) (issueId : String) {d : Directive}
    (hresume : d.kind = .resume) {w : World ω} (hmissing : w.store.missing = []) :
    e.apply issueId d w = (.ok (), (w.forgotten e.shelf issueId).withTouchpoints
      (w.store.withAnswers issueId w.clock).touchpoints) := by
  have hanswer : World.onStoreNow (Store.markResponded issueId) w = (.ok _, { w with
      store := w.store.withAnswers issueId w.clock }) :=
    World.onStoreNow_of_eq (Store.markResponded_of_has (Store.has_of_missing hmissing _) _ _)
  have hremove (s : Store) (hs : s.missing = []) : Store.removeOverride issueId s = (.ok (), _) :=
    Store.changing_of_has (Store.has_of_missing hs _) _
  have hclear (s : Store) (hs : s.missing = []) : Store.clearWorkflow issueId s = (.ok (), _) :=
    Store.changing_of_has (Store.has_of_missing hs _) _
  rw [apply_eq, Run.bind_of_ok hanswer, enforce, if_pos hresume, adapt, if_pos hresume]
  rcases e.shelf with - | -
  · have hlifted : World.onStore (Store.removeOverride issueId) { w with
        store := w.store.withAnswers issueId w.clock } = (.ok (), _) :=
      World.onStore_of_eq (hremove _ hmissing)
    rw [OverrideShelf.clear, Run.bind_of_ok hlifted]
    exact World.onStore_of_eq (hclear _ hmissing)
  · rw [OverrideShelf.clear, Run.bind_of_ok (Run.modify_apply _ _)]
    exact World.onStore_of_eq (hclear _ hmissing)

/-- An order to resume forgets the issue, as far as anyone can tell.  Whatever is asked afterwards,
about this issue or any other, is answered as if its override, the record of its failed cycles and
all its touchpoints had been deleted; and the overrides and the records of failed cycles are the
same in the end. -/
theorem Escalation.answers_apply_resume (e : Escalation ω) (issueId : String) {d : Directive}
    (hresume : d.kind = .resume) {w : World ω} (hmissing : w.store.missing = [])
    (hclock : w.clock.isNaN = false) :
    ∃ w', e.apply issueId d w = (.ok (), w') ∧ ∀ rs : List (Binary64 × Request ω),
      (w'.answers rs).1 = ((w.forgotten e.shelf issueId).answers rs).1 ∧
        World.SameSteering ((w.forgotten e.shelf issueId).answers rs).2 (w'.answers rs).2 := by
  refine ⟨_, e.apply_of_resume issueId hresume hmissing, fun rs => ?_⟩
  have halike : World.Alike Store.SameButClosed (w.forgotten e.shelf issueId)
      ((w.forgotten e.shelf issueId).withTouchpoints
        (w.store.withAnswers issueId w.clock).touchpoints) :=
    ⟨⟨rfl, w.store.filter_isOpen_withAnswers issueId hclock⟩, rfl⟩
  obtain ⟨hreplies, hend⟩ := World.answers_respects halike rs
  exact ⟨hreplies, .of_alike hend⟩

/-- A world in which an issue has been parked after its fourth failure, and a human has been
asked. -/
def World.parked : World Unit := { fresh with
  store := {
    overrides := [.ofDirective "a" (Escalation.parking 0) none 0]
    workflow := [{ issueId := "a", cycleCount := 4, strategy := .escalateHuman }]
    touchpoints := [{
      id := 1, issueId := "a", kind := .escalationAlert, body := "", postedAt := 0
      timeout := some 60 }]
    lastTouchpoint := 1 } }

/-- The parked issue is as good as new once a human has answered that it is to go on. -/
theorem Escalation.answers_apply_resume_parked :
    ∃ w', Escalation.standard.apply "a" { kind := .resume } World.parked = (.ok (), w') ∧
      ∀ rs : List (Binary64 × Request Unit),
        (w'.answers rs).1 = ((World.parked.forgotten .shared "a").answers rs).1 ∧
          World.SameSteering ((World.parked.forgotten .shared "a").answers rs).2
            (w'.answers rs).2 :=
  Escalation.standard.answers_apply_resume "a" rfl rfl rfl

end IssueDispatch
