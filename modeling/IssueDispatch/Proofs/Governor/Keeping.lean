import IssueDispatch.Governor.Events
import IssueDispatch.Proofs.Governor.Questions
import IssueDispatch.Proofs.Governor.Steering

/-!
# What scans and events keep

A scan, and the handling of an event, are long computations, but each of them is put together from a
few parts: the touchpoints that are proceeded with, the directive that is followed, the issues that
are looked at, and the callbacks.  What the parts keep, the whole keeps, and the lemmas below say so
once for every relation.

A scan proceeds with touchpoints before anything else, and what it does then may be as much as a
relation allows that is not transitive.  So two relations are told apart: `R` for the beginning of a
step and `S` for what comes after it; `Run.Continues R S` is all that is needed of them.
-/

namespace IssueDispatch

variable {ω α β : Type}

/-- What is related by one relation may go on with another one. -/
structure Run.Continues {σ : Type} (R S : σ → σ → Prop) : Prop where
  refl : ∀ s, R s s
  trans : ∀ {s t u}, R s t → S t u → R s u

namespace Run.Continues

variable {σ : Type} {R S : σ → σ → Prop}

/-- A preorder goes on with every stronger relation. -/
lemma of_imp [IsPreorder σ R] (h : ∀ s t, S s t → R s t) : Run.Continues R S :=
  ⟨refl_of R, fun hst htu => trans_of R hst (h _ _ htu)⟩

lemma imp (h : Run.Continues R S) {s t : σ} (hst : S s t) : R s t := h.trans (h.refl s) hst

lemma bind (h : Run.Continues R S) {x : Run σ α} {f : α → Run σ β} (hx : x.Keeps R)
    (hf : ∀ a, (f a).Keeps S) : (x >>= f).Keeps R :=
  Keeps.bind_of_trans (R := R) (S := S) h.trans id hx hf

end Run.Continues

/-! ## Dispatches -/

namespace StoreBacked

variable {b : StoreBacked ω} {R : World ω → World ω → Prop} [IsPreorder (World ω) R]
  (hquiet : b.tracker.IsQuiet)

include hquiet

/-- A dispatch keeps what it keeps to ask for the override of its issue, to record a session of the
issue and to queue work for it. -/
lemma dispatch_keeps_of_parts {issue : Issue}
    (houtside : ∀ w w', World.OnlyOutside w w' → R w w')
    (hget : (b.shelf.get issue.id).Keeps R)
    (hsession : ∀ (w : World ω) (x : Session), x.issueId = issue.id →
      R w { w with store := w.store.withSession x })
    (hwork : ∀ (w : World ω) (work : Work), work.issueId = issue.id →
      R w { w with store := w.store.withWork work })
    (workType : String) : (b.dispatch issue workType).Keeps R := by
  rw [dispatch_eq]
  refine (hquiet.newSessionId.mono houtside).bind fun sessionId => ?_
  rw [workPriority, bind_assoc]
  refine (OverrideShelf.priority_keeps hget).bind fun p => ?_
  rw [pure_bind]
  refine (Run.Keeps.of_eq fun _ => rfl).bind fun now => ?_
  refine ((hquiet.prompt issue workType).mono houtside).bind fun prompt w => ?_
  rcases place_cases issue workType sessionId (OverridePriority.rank p) prompt now
    (OverridePriority.isStorable_rank p) w with
    ⟨e, h⟩ | ⟨-, -, -, -, -, h⟩ | ⟨-, -, e, error, h⟩
  · rw [h]
    exact refl w
  · rw [h]
    exact trans_of R (hsession w _ rfl) (hwork _ _ rfl)
  · rw [h]
    exact hsession w _ rfl

variable (hlapsed : ∀ w w', World.OnlyLapsed w w' → R w w')
  (hwork : ∀ (w : World ω) (queue : List Work) (sessions : List Session),
    R w { w with store := { w.store with queue, sessions } })

include hlapsed hwork

/-- A dispatch may let overrides lapse, and it writes to the queue and the records of sessions. -/
lemma dispatch_keeps (issue : Issue) (workType : String) : (b.dispatch issue workType).Keeps R :=
  dispatch_keeps_of_parts hquiet (fun _ _ h => hlapsed _ _ (.of_onlyOutside h))
    ((b.shelf.get_keeps issue.id).mono hlapsed) (fun w _ _ => hwork w _ _)
    (fun w _ _ => hwork w _ _) workType

/-- The collaborators that answer from the store keep what their dispatches keep. -/
lemma keep_collaborators : b.collaborators.Keep R where
  toQuestionsKeep := (questionsKeep_collaborators hquiet).mono hlapsed
  dispatch issue _ workType := dispatch_keeps hquiet hlapsed hwork issue workType.name

end StoreBacked

namespace Governor

variable {g : Governor ω} {R S : World ω → World ω → Prop} [IsPreorder (World ω) S]

/-! ## Scans -/

/-- Evaluating issues keeps what each question keeps. -/
lemma evaluateAll_keeps (hasked : g.collaborators.QuestionsKeep S) (issues : List Issue)
    (r : ScanResult) : (g.evaluateAll issues r).Keeps S := by
  induction issues generalizing r with
  | nil => exact .pure _
  | cons issue rest ih =>
    refine (evaluate_keeps (hasked.answers issue.id)).attempt.bind fun result => ?_
    split
    · exact ih _
    · exact ih _
    · exact (ih _).bind fun _ => .pure _

/-- Carrying out a decision keeps what each dispatch keeps. -/
lemma dispatch_keeps (hkeep : g.collaborators.Keep S) (issue : Issue) (d : Decision) :
    (g.dispatch issue d).Keeps S := by
  cases d with
  | skip reason => exact .pure ()
  | dispatch action workType reason => exact hkeep.dispatch issue action workType

lemma dispatchAll_keeps (hkeep : g.collaborators.Keep S) (as : List Actionable) (r : ScanResult) :
    (g.dispatchAll as r).Keeps S := by
  induction as generalizing r with
  | nil => exact .pure r
  | cons a rest ih =>
    rw [dispatchAll]
    refine .ite (ih _) ((dispatch_keeps hkeep a.issue a.decision).attempt.bind fun result => ?_)
    split
    · exact ih _
    · exact ih _
    · exact ih _

/-- Scanning a project keeps what the collaborators keep. -/
lemma scanProject_keeps (hkeep : g.collaborators.Keep S) (project : Value) :
    (g.scanProject project).Keeps S := by
  refine (hkeep.listIssues project).attempt.bind fun listing => ?_
  split
  · exact .pure _
  · exact .throw _
  · exact (evaluateAll_keeps hkeep.toQuestionsKeep _ _).bind fun _ => dispatchAll_keeps hkeep _ _

/-- Telling about a fault keeps what the callback keeps. -/
lemma report_keeps (herror : ∀ fault, (g.onError fault).Keeps S) (fault : Fault) :
    (g.report fault).Keeps S :=
  (herror fault).attempt.bind fun _ => .pure ()

/-- A governor proceeds with touchpoints as escalation does. -/
lemma processTimeouts_keeps (hgoesOn : Run.Continues R S)
    (hescalation : ∀ e ∈ g.escalation, (e.processTimeouts none).Keeps R)
    (herror : ∀ fault, (g.onError fault).Keeps S) : g.processTimeouts.Keeps R := by
  rw [processTimeouts]
  split
  · exact fun w => hgoesOn.refl w
  · rename_i e he
    refine hgoesOn.bind (hescalation e he).attempt fun result => ?_
    split
    · exact .pure _
    · exact (report_keeps herror _).bind fun _ => .pure []

/-- A scan begins with touchpoints and goes on with one project after the other. -/
lemma scan_keeps (hgoesOn : Run.Continues R S)
    (hbegin : ∀ {w w' : World ω} {scanning : List GovernorId}, R { w with scanning } w' → R w w')
    (hend : ∀ (w : World ω) (scanning : List GovernorId), S w { w with scanning })
    (htimeouts : g.processTimeouts.Keeps R)
    (hproject : ∀ project ∈ g.settings.projects, (g.scanProject project).Keeps S)
    (hcomplete : ∀ results, (g.onScanComplete results).Keeps S) : g.scan.Keeps R := by
  have hall : g.scanAll.Keeps R :=
    hgoesOn.bind htimeouts fun _ => .mapM hproject
  have hwhile : (g.whileScanning g.scanAll).Keeps R := by
    intro w
    exact hgoesOn.trans (hbegin (hall { w with scanning := g.id :: w.scanning })) (hend _ _)
  intro w
  rw [scan, Run.bind_of_ok (show g.isScanning w = (.ok (w.scanning.contains g.id), w) from rfl)]
  split
  · exact hgoesOn.refl w
  · exact hgoesOn.bind hwhile (fun results => (hcomplete results).attempt.bind fun _ => .pure _) w

end Governor

/-! ## Events -/

/-- Nothing but what is remembered of reports has changed in the store. -/
def Store.OnlySightings (s s' : Store) : Prop := s' = { s with sightings := s'.sightings }

instance : IsPreorder Store Store.OnlySightings where
  refl _ := rfl
  trans s t u h h' := by
    rw [Store.OnlySightings, h', h]

/-- Nothing but what is remembered of reports has changed. -/
structure World.OnlySightings (w w' : World ω) : Prop where
  store : w.store.OnlySightings w'.store
  frame : w' = { w with store := w'.store, sightings := w'.sightings }

lemma World.SameWork.of_onlySightings {w w' : World ω} (h : w.OnlySightings w') :
    w.SameWork w' := by
  refine ⟨?_, ?_, ?_, ?_, ?_⟩
  · rw [h.frame]
  all_goals rw [h.store]

lemma World.LeavesSteering.of_onlySightings {w w' : World ω} (h : w.OnlySightings w') :
    w.LeavesSteering w' where
  missing := by rw [h.store]
  workflow := by rw [h.store]
  standing shelf issueId := by
    cases shelf with
    | shared => rw [OverrideShelf.standing, OverrideShelf.kept, h.store]; rfl
    | inProcess => rw [OverrideShelf.standing, OverrideShelf.kept, h.frame]; rfl

lemma Store.seen_keeps (key : String) (window now : Binary64) :
    (seen key window now).Keeps OnlySightings :=
  changing_keeps _ fun s => iteInduction (motive := fun p : Bool × Store => s.OnlySightings p.2)
    (fun _ => rfl) fun _ => rfl

namespace EventGovernor

variable {g : EventGovernor ω}

/-- Asking whether an event is a repeat may note the report, and changes nothing else. -/
lemma isRepeat_onlySightings (g : EventGovernor ω) (e : Event) (w : World ω) :
    w.OnlySightings (g.isRepeat e w).2 := by
  rw [isRepeat]
  rcases g.dedup with - | d
  · exact ⟨rfl, rfl⟩
  · rcases g.settings.dedupWindow.toBinary64 with fault | window
    · exact ⟨rfl, rfl⟩
    · dsimp only
      rw [Run.bind_of_ok (Run.ofExcept_apply _ w)]
      cases d with
      | inProcess usual => exact ⟨rfl, rfl⟩
      | stored usual => exact ⟨Store.seen_keeps e.key window w.clock w.store, rfl⟩

/-- The directive that a governor would follow if it handled an event. -/
def directive? (g : EventGovernor ω) (e : Event) : Option Directive :=
  match e.detail with
  | .commentAdded commentId body userId _ isBot =>
    if g.escalation.isSome then
      Directive.ofComment? (comment commentId body userId isBot e.timestamp)
    else none
  | _ => none

/-- The directive that a governor follows when it is called for an event, with its issue.  Repeats
are not handled. -/
def followed? (g : EventGovernor ω) (e? : Option Event) (w : World ω) :
    Option (String × Directive) :=
  e?.bind fun e =>
    if (g.isRepeat e w).1.toOption = some false then (g.directive? e).map fun d => (e.issueId, d)
    else none

variable {R S : World ω → World ω → Prop} [IsPreorder (World ω) S]

/-- What is done for an event begins with a directive, if there is one to follow. -/
lemma react_keeps (hgoesOn : Run.Continues R S) {e : Event}
    (hfollow : ∀ escalation ∈ g.escalation, ∀ d ∈ g.directive? e,
      (escalation.apply e.issueId d).Keeps R)
    (hhandle : (g.handle e.issue).Keeps S) : (g.react e).Keeps R := by
  have hlook : (g.handle e.issue >>= fun _ => pure () : Run (World ω) Unit).Keeps S :=
    hhandle.bind fun _ => .pure ()
  rw [react]
  split
  · rename_i commentId body userId _ isBot hdetail
    rw [handleComment]
    split
    · rename_i d escalation hd hescalation
      have hdirective : d ∈ g.directive? e := by
        rw [directive?, hdetail, hescalation]
        exact hd
      exact hgoesOn.bind (hfollow escalation hescalation d hdirective) fun _ =>
        .ite hlook (.pure ())
    · exact hlook.mono fun _ _ => hgoesOn.imp
  · exact hlook.mono fun _ _ => hgoesOn.imp

section Step

variable {e : Event} {id : String} {w v : World ω}

/-- Without an answer from the deduplicator nothing is done. -/
lemma process_of_unanswered {fault : Fault} (h : g.isRepeat e w = (.error fault, v)) :
    g.process id (some e) w = (.error fault, v) :=
  Run.bind_of_error h

/-- A repeat is acknowledged at once. -/
lemma process_of_repeat (h : g.isRepeat e w = (.ok true, v)) :
    g.process id (some e) w = g.bus.ack id v :=
  Run.bind_of_ok h

/-- Any other event is acknowledged after it has been handled. -/
lemma process_of_not_repeat (h : g.isRepeat e w = (.ok false, v)) :
    g.process id (some e) w = (g.react e >>= fun _ => g.bus.ack id) v :=
  Run.bind_of_ok h

end Step

/-- Handling an event first asks whether it is a repeat; then come what is done for it and the
acknowledgement. -/
lemma process_keeps (hgoesOn : Run.Continues R S)
    (hseen : ∀ {w v w' : World ω}, w.OnlySightings v → R v w' → R w w') {id : String}
    {e? : Option Event} {w : World ω}
    (hfollow : ∀ escalation ∈ g.escalation, ∀ issueId d, g.followed? e? w = some (issueId, d) →
      (escalation.apply issueId d).Keeps R)
    (hhandle : ∀ e ∈ e?, (g.handle e.issue).Keeps S)
    (hack : (g.bus.ack id : Run (World ω) Unit).Keeps S) : R w (g.process id e? w).2 := by
  rcases e? with - | e
  · exact hgoesOn.imp (hack w)
  · have hnoted := g.isRepeat_onlySightings e w
    rcases hasked : g.isRepeat e w with ⟨fault | isRepeat, v⟩ <;> rw [hasked] at hnoted
    · rw [process_of_unanswered hasked]
      exact hseen hnoted (hgoesOn.refl v)
    · cases isRepeat with
      | true =>
        rw [process_of_repeat hasked]
        exact hseen hnoted (hgoesOn.imp (hack v))
      | false =>
        have hreact : (g.react e).Keeps R := by
          refine react_keeps hgoesOn (fun escalation hescalation d hd => ?_) (hhandle e rfl)
          refine hfollow escalation hescalation e.issueId d ?_
          simp [followed?, hasked, Option.mem_def.1 hd, Except.toOption]
        rw [process_of_not_repeat hasked]
        exact hseen hnoted (hgoesOn.bind hreact (fun _ => hack) v)

end EventGovernor

end IssueDispatch
