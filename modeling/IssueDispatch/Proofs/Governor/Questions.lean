import IssueDispatch.Governor.Basic
import IssueDispatch.Proofs.Dispatch

/-!
# The questions of a governor

Before a governor decides about an issue it asks for the facts about it, one after the other.  Each
question may remove overrides that are over, so the answers belong to different states; but these
differ from the state at the beginning by no more than that, and every fact that a decision rests on
can be stated for the state at the beginning.  `Governor.Gathered` says so for all the facts at
once, and the lemmas of the second section say what the answers mean if they come from the store.
-/

namespace IssueDispatch

variable {ω α : Type}

/-- What a question answers at a state that differs by no more than lapsed overrides. -/
def World.Answers (w : World ω) (x : Run (World ω) α) (a : α) : Prop :=
  ∃ v, World.OnlyLapsed w v ∧ (x v).1 = .ok a

/-- An operation that changes nothing in the store changes nothing at all. -/
lemma World.onStore_keeps {R : World ω → World ω → Prop} [IsPreorder (World ω) R]
    {x : Run Store α} (hx : x.Keeps Eq) : (onStore x).Keeps R :=
  .of_eq fun w => by rw [onStore_apply, ← hx]

/-- Reading the record of an issue changes nothing. -/
lemma Store.didJustFail_keeps (issueId : String) (cooldown : Value) (now : Binary64) :
    (didJustFail issueId cooldown now).Keeps Eq :=
  (reading_keeps _ _).bind fun x? => by
    rcases x? with - | x
    · exact .pure false
    · exact .ofExcept _

namespace OverrideShelf

/-- Asking what is in force leaves no more behind than lapsed overrides. -/
lemma get_keeps (shelf : OverrideShelf) (issueId : String) :
    (shelf.get issueId : Run (World ω) _).Keeps World.OnlyLapsed := by
  intro w
  obtain ⟨w', hlapsed, h | ⟨e, h⟩⟩ := shelf.get_cases issueId w
  · rwa [h]
  · rwa [h]

section Reading

variable {shelf : OverrideShelf} {issueId : String} {R : World ω → World ω → Prop}
  [IsPreorder (World ω) R] (hget : (shelf.get issueId).Keeps R)

include hget

lemma hasDirective_keeps (kind : DirectiveKind) :
    (shelf.hasDirective issueId kind).Keeps R :=
  hget.bind fun _ => .pure _

lemma priority_keeps : (shelf.priority issueId).Keeps R := hget.bind fun _ => .pure _

end Reading

/-- A directive of a kind is in force if the override in force orders it. -/
lemma eq_of_hasDirective {shelf : OverrideShelf} {issueId : String} {kind : DirectiveKind}
    {w w' : World ω} {a : Bool} (h : shelf.hasDirective issueId kind w = (.ok a, w')) :
    a = (shelf.inForce w issueId).any (·.orders kind) ∧ World.OnlyLapsed w w' := by
  obtain ⟨v, hlapsed, hget | ⟨e, hget⟩⟩ := shelf.get_cases issueId w
  · rw [hasDirective, Run.bind_of_ok hget, Run.pure_apply] at h
    obtain ⟨ha, rfl⟩ := Prod.mk.inj h
    exact ⟨(Except.ok.inj ha).symm, hlapsed⟩
  · rw [hasDirective, Run.bind_of_error hget] at h
    cases (Prod.mk.inj h).1

/-- The priority that is read is that of the override in force. -/
lemma eq_of_priority {shelf : OverrideShelf} {issueId : String} {w w' : World ω}
    {p : Option OverridePriority} (h : shelf.priority issueId w = (.ok p, w')) :
    p = (shelf.inForce w issueId).bind Override.priority? := by
  obtain ⟨v, -, hget | ⟨e, hget⟩⟩ := shelf.get_cases issueId w
  · rw [priority, Run.bind_of_ok hget, Run.pure_apply] at h
    exact (Except.ok.inj (Prod.mk.inj h).1).symm
  · rw [priority, Run.bind_of_error hget] at h
    cases (Prod.mk.inj h).1

end OverrideShelf

/-- Collaborators whose answers about an issue keep a relation. -/
structure Collaborators.AnswersKeep (c : Collaborators ω) (R : World ω → World ω → Prop)
    (issueId : String) : Prop where
  hasActiveSession : (c.hasActiveSession issueId).Keeps R
  isWithinCooldown : (c.isWithinCooldown issueId).Keeps R
  isParentIssue : (c.isParentIssue issueId).Keeps R
  isHeld : (c.isHeld issueId).Keeps R
  overridePriority : (c.overridePriority issueId).Keeps R
  strategy : (c.strategy issueId).Keeps R
  isResearchCompleted : (c.isResearchCompleted issueId).Keeps R
  isBacklogCreationCompleted : (c.isBacklogCreationCompleted issueId).Keeps R

/-- Collaborators whose answers keep a relation. -/
structure Collaborators.QuestionsKeep (c : Collaborators ω) (R : World ω → World ω → Prop) :
    Prop where
  listIssues : ∀ project, (c.listIssues project).Keeps R
  answers : ∀ issueId, c.AnswersKeep R issueId

/-- Collaborators whose answers and dispatches keep a relation. -/
structure Collaborators.Keep (c : Collaborators ω) (R : World ω → World ω → Prop) : Prop
    extends c.QuestionsKeep R where
  dispatch : ∀ issue action workType, (c.dispatch issue action workType).Keeps R

/-- Answers that keep a relation keep every weaker one. -/
lemma Collaborators.AnswersKeep.mono {c : Collaborators ω} {R S : World ω → World ω → Prop}
    {issueId : String} (hasked : c.AnswersKeep R issueId) (h : ∀ w w', R w w' → S w w') :
    c.AnswersKeep S issueId where
  hasActiveSession := hasked.hasActiveSession.mono h
  isWithinCooldown := hasked.isWithinCooldown.mono h
  isParentIssue := hasked.isParentIssue.mono h
  isHeld := hasked.isHeld.mono h
  overridePriority := hasked.overridePriority.mono h
  strategy := hasked.strategy.mono h
  isResearchCompleted := hasked.isResearchCompleted.mono h
  isBacklogCreationCompleted := hasked.isBacklogCreationCompleted.mono h

/-- Questions that keep a relation keep every weaker one. -/
lemma Collaborators.QuestionsKeep.mono {c : Collaborators ω} {R S : World ω → World ω → Prop}
    (hasked : c.QuestionsKeep R) (h : ∀ w w', R w w' → S w w') : c.QuestionsKeep S where
  listIssues project := (hasked.listIssues project).mono h
  answers issueId := (hasked.answers issueId).mono h

namespace Governor

variable {g : Governor ω} {issue : Issue} {w w' : World ω} {R : World ω → World ω → Prop}
  [IsPreorder (World ω) R]

/-- The question whether an issue awaits a response; without escalation the answer is no. -/
def awaiting (g : Governor ω) (issueId : String) : Run (World ω) Bool :=
  match g.escalation with
  | none => return false
  | some e => e.isAwaiting issueId none

/-- The facts about an issue are the answers of the collaborators. -/
structure Gathered (g : Governor ω) (issueId : String) (w : World ω) (ctx : Context)
    (priority : Option OverridePriority) : Prop where
  hasActiveSession : w.Answers (g.collaborators.hasActiveSession issueId) ctx.hasActiveSession
  isHeld : w.Answers (g.collaborators.isHeld issueId) ctx.isHeld
  isWithinCooldown : w.Answers (g.collaborators.isWithinCooldown issueId) ctx.isWithinCooldown
  isParentIssue : w.Answers (g.collaborators.isParentIssue issueId) ctx.isParentIssue
  strategy : w.Answers (g.collaborators.strategy issueId) ctx.strategy
  researchCompleted :
    w.Answers (g.collaborators.isResearchCompleted issueId) ctx.researchCompleted
  backlogCreationCompleted :
    w.Answers (g.collaborators.isBacklogCreationCompleted issueId) ctx.backlogCreationCompleted
  awaitingResponse : w.Answers (g.awaiting issueId) ctx.awaitingResponse
  now : ctx.now = some w.clock
  priority : w.Answers (g.collaborators.overridePriority issueId) priority

/-- Asking whether an issue awaits a response leaves nothing behind. -/
lemma awaiting_keeps (g : Governor ω) (issueId : String) : (g.awaiting issueId).Keeps R := by
  rw [awaiting]
  split
  · exact .pure false
  · exact (Run.Keeps.of_eq fun _ => rfl).bind fun _ =>
      (World.onStore_keeps (Store.reading_keeps _ _)).bind fun _ => .pure _

/-- A question that is asked in passing leaves no more behind than lapsed overrides, and what it
answers is an answer at the beginning. -/
lemma asked {β : Type} {x : Run (World ω) α} {f : Except Fault α → Run (World ω) β}
    (hx : x.Keeps World.OnlyLapsed) {v : World ω} {b : β} (hv : World.OnlyLapsed w v)
    (h : (Run.attempt x >>= f) v = (.ok b, w')) :
    ∃ r v', World.OnlyLapsed w v' ∧ (∀ a, r = .ok a → w.Answers x a) ∧ f r v' = (.ok b, w') := by
  refine ⟨(x v).1, (x v).2, hv.trans (hx v), fun a ha => ⟨v, hv, ha⟩, ?_⟩
  rwa [Run.bind_of_ok (Run.attempt_apply x v)] at h

/-- A computation that goes on has got a result. -/
lemma granted {β : Type} {r : Except Fault α} {f : α → Run (World ω) β} {v : World ω} {b : β}
    (h : (Run.ofExcept r >>= f) v = (.ok b, w')) : ∃ a, r = .ok a ∧ f a v = (.ok b, w') := by
  obtain ⟨a, v', ha, h⟩ := Run.exists_of_bind_eq_ok h
  rw [Run.ofExcept_apply] at ha
  obtain ⟨hr, rfl⟩ := Prod.mk.inj ha
  exact ⟨a, hr, h⟩

/-- Gathering the facts keeps what each question keeps. -/
lemma gather_keeps {issue : Issue} (hasked : g.collaborators.AnswersKeep R issue.id) :
    (g.gather issue).Keeps R := by
  refine hasked.hasActiveSession.attempt.bind fun _ => ?_
  refine hasked.isHeld.attempt.bind fun _ => ?_
  refine hasked.isWithinCooldown.attempt.bind fun _ => ?_
  refine hasked.isParentIssue.attempt.bind fun _ => ?_
  refine hasked.strategy.attempt.bind fun _ => ?_
  refine hasked.isResearchCompleted.attempt.bind fun _ => ?_
  refine hasked.isBacklogCreationCompleted.attempt.bind fun _ => ?_
  refine (g.awaiting_keeps issue.id).attempt.bind fun _ => ?_
  refine hasked.overridePriority.attempt.bind fun _ => ?_
  -- All questions have been asked; what follows reads the clock and reports the first fault.
  iterate 8 refine (Run.Keeps.ofExcept _).bind fun _ => ?_
  refine (Run.Keeps.of_eq fun _ => rfl).bind fun _ => ?_
  exact (Run.Keeps.ofExcept _).bind fun _ => .pure _

/-- The facts that have been gathered are answers at the beginning. -/
lemma gathered_of_eq (hquiet : g.collaborators.QuestionsKeep World.OnlyLapsed) {ctx : Context}
    {priority : Option OverridePriority} (h : g.gather issue w = (.ok (ctx, priority), w')) :
    g.Gathered issue.id w ctx priority := by
  obtain ⟨_, _, hw, hactive, h⟩ := asked (hquiet.answers _).hasActiveSession (refl w) h
  obtain ⟨_, _, hw, hheld, h⟩ := asked (hquiet.answers _).isHeld hw h
  obtain ⟨_, _, hw, hcooldown, h⟩ := asked (hquiet.answers _).isWithinCooldown hw h
  obtain ⟨_, _, hw, hparent, h⟩ := asked (hquiet.answers _).isParentIssue hw h
  obtain ⟨_, _, hw, hstrategy, h⟩ := asked (hquiet.answers _).strategy hw h
  obtain ⟨_, _, hw, hresearch, h⟩ := asked (hquiet.answers _).isResearchCompleted hw h
  obtain ⟨_, _, hw, hbacklog, h⟩ := asked (hquiet.answers _).isBacklogCreationCompleted hw h
  obtain ⟨_, v, hw, hawaiting, h⟩ := asked (g.awaiting_keeps _) hw h
  obtain ⟨_, v, hw, hpriority, h⟩ := asked (hquiet.answers _).overridePriority hw h
  -- From here on nothing happens any more; the first fault would end it.
  obtain ⟨_, hactive', h⟩ := granted h
  obtain ⟨_, hheld', h⟩ := granted h
  obtain ⟨_, hcooldown', h⟩ := granted h
  obtain ⟨_, hparent', h⟩ := granted h
  obtain ⟨_, hstrategy', h⟩ := granted h
  obtain ⟨_, hresearch', h⟩ := granted h
  obtain ⟨_, hbacklog', h⟩ := granted h
  obtain ⟨_, hawaiting', h⟩ := granted h
  rw [Run.bind_of_ok (World.now_apply v)] at h
  obtain ⟨_, hpriority', h⟩ := granted h
  obtain ⟨rfl, rfl⟩ := Prod.mk.inj (Except.ok.inj (Prod.mk.inj h).1)
  exact {
    hasActiveSession := hactive _ hactive'
    isHeld := hheld _ hheld'
    isWithinCooldown := hcooldown _ hcooldown'
    isParentIssue := hparent _ hparent'
    strategy := hstrategy _ hstrategy'
    researchCompleted := hresearch _ hresearch'
    backlogCreationCompleted := hbacklog _ hbacklog'
    awaitingResponse := hawaiting _ hawaiting'
    now := congrArg some hw.clock
    priority := hpriority _ hpriority' }

/-- Evaluating an issue keeps what each question keeps. -/
lemma evaluate_keeps {issue : Issue} (hasked : g.collaborators.AnswersKeep R issue.id) :
    (g.evaluate issue).Keeps R :=
  (gather_keeps hasked).bind fun _ => (Run.Keeps.ofExcept _).bind fun _ => .pure _

/-- Handling an issue keeps what the answers about it and its dispatch keep. -/
lemma handle_keeps_of_answers {issue : Issue}
    (hasked : g.collaborators.AnswersKeep R issue.id)
    (hdispatch : ∀ action workType, (g.collaborators.dispatch issue action workType).Keeps R) :
    (g.handle issue).Keeps R := by
  refine (evaluate_keeps hasked).bind fun (decision, _) => ?_
  have hdecided : (g.dispatch issue decision).Keeps R := by
    cases decision with
    | skip reason => exact .pure ()
    | dispatch action workType reason => exact hdispatch action workType
  refine hdecided.attempt.bind fun result => ?_
  split
  · exact .pure _
  · exact .pure _
  · exact .throw _

/-- Handling an issue keeps what the collaborators keep. -/
lemma handle_keeps (hkeep : g.collaborators.Keep R) (issue : Issue) : (g.handle issue).Keeps R :=
  handle_keeps_of_answers (hkeep.answers issue.id) (hkeep.dispatch issue)

/-- To evaluate an issue is to gather the facts and to decide. -/
lemma exists_of_evaluate {d : Decision} {priority : Option OverridePriority}
    (h : g.evaluate issue w = (.ok (d, priority), w')) :
    ∃ ctx, g.gather issue w = (.ok (ctx, priority), w') ∧
      issue.decide g.settings ctx = .ok d := by
  obtain ⟨⟨ctx, _⟩, v, hgather, h⟩ := Run.exists_of_bind_eq_ok h
  obtain ⟨_, hdecide, h⟩ := granted h
  obtain ⟨heq, rfl⟩ := Prod.mk.inj h
  obtain ⟨rfl, rfl⟩ := Prod.mk.inj (Except.ok.inj heq)
  exact ⟨ctx, hgather, hdecide⟩

/-- What is decided follows from the facts that have been gathered. -/
lemma exists_gathered_of_evaluate (hquiet : g.collaborators.QuestionsKeep World.OnlyLapsed)
    {d : Decision} {priority : Option OverridePriority}
    (h : g.evaluate issue w = (.ok (d, priority), w')) :
    ∃ ctx, g.Gathered issue.id w ctx priority ∧ issue.decide g.settings ctx = .ok d := by
  obtain ⟨ctx, hgather, hdecide⟩ := exists_of_evaluate h
  exact ⟨ctx, gathered_of_eq hquiet hgather, hdecide⟩

end Governor

/-! ## Answers from the store -/

namespace StoreBacked

variable {b : StoreBacked ω} {w : World ω} {issueId : String}

/-- The answers from the store keep what the parent checker and the overrides keep. -/
lemma answersKeep_collaborators {R : World ω → World ω → Prop} [IsPreorder (World ω) R]
    (hcheck : ∀ check ∈ b.tracker.isParentIssue, (check issueId).Keeps R)
    (hget : (b.shelf.get issueId).Keeps R) : b.collaborators.AnswersKeep R issueId where
  hasActiveSession := World.onStore_keeps (Store.reading_keeps _ _)
  isWithinCooldown := (Run.Keeps.of_eq fun _ => rfl).bind fun _ =>
    World.onStore_keeps (Store.didJustFail_keeps _ _ _)
  isParentIssue := by
    dsimp only [collaborators]
    split
    · exact .pure false
    · rename_i check h
      exact hcheck check h
  isHeld := (OverrideShelf.hasDirective_keeps hget .hold).bind fun held => by
    split
    · exact .pure true
    · exact OverrideShelf.hasDirective_keeps hget .reassign
  overridePriority := OverrideShelf.priority_keeps hget
  strategy := World.onStore_keeps <| (Store.reading_keeps _ _).bind fun _ => .pure _
  isResearchCompleted := World.onStore_keeps (Store.reading_keeps _ _)
  isBacklogCreationCompleted := World.onStore_keeps (Store.reading_keeps _ _)

/-- A quiet tracker makes the collaborators quiet. -/
lemma questionsKeep_collaborators (hquiet : b.tracker.IsQuiet) :
    b.collaborators.QuestionsKeep World.OnlyLapsed where
  listIssues project := (hquiet.listIssues project).mono fun _ _ => .of_onlyOutside
  answers issueId := answersKeep_collaborators
    (fun check hcheck => (hquiet.isParentIssue check hcheck issueId).mono
      fun _ _ => .of_onlyOutside)
    (b.shelf.get_keeps issueId)

/-- An issue that is not held has neither a hold nor a reassignment in force. -/
lemma not_orders_of_answers (h : w.Answers (b.collaborators.isHeld issueId) false) {o : Override}
    (ho : b.shelf.inForce w issueId = some o) :
    o.orders .hold = false ∧ o.orders .reassign = false := by
  obtain ⟨v, hlapsed, h⟩ := h
  rcases hheld : b.shelf.isHeld issueId v with ⟨e | held, v'⟩
  · simp [collaborators, isHeld, Run.bind_of_error hheld] at h
  obtain ⟨rfl, hlapsed'⟩ := OverrideShelf.eq_of_hasDirective hheld
  simp only [collaborators, isHeld] at h
  rw [Run.bind_of_ok hheld, hlapsed.inForce, ho, Option.any_some] at h
  cases hhold : o.orders .hold with
  | true =>
    rw [hhold, if_pos rfl] at h
    cases Except.ok.inj h
  | false =>
    refine ⟨rfl, ?_⟩
    rw [hhold, if_neg Bool.false_ne_true] at h
    rcases hreassign : b.shelf.hasDirective issueId .reassign v' with ⟨e | reassigned, u⟩
    · rw [hreassign] at h
      cases h
    · rw [hreassign] at h
      obtain ⟨hany, -⟩ := OverrideShelf.eq_of_hasDirective hreassign
      rw [hlapsed'.inForce, hlapsed.inForce, ho, Option.any_some] at hany
      rw [← hany]
      exact Except.ok.inj h

/-- The priority that is answered is that of the override in force. -/
lemma priority_of_answers {p : Option OverridePriority}
    (h : w.Answers (b.collaborators.overridePriority issueId) p) :
    p = (b.shelf.inForce w issueId).bind Override.priority? := by
  obtain ⟨v, hlapsed, h⟩ := h
  rw [← hlapsed.inForce]
  exact OverrideShelf.eq_of_priority (Prod.ext h rfl)

/-- An issue that is not within its cooldown has no recent failure on record. -/
lemma didJustFail_of_answers
    (h : w.Answers (b.collaborators.isWithinCooldown issueId) false) {x : WorkflowState}
    (hx : w.store.workflow.find? (fun x => x.issueId == issueId) = some x) :
    x.didJustFail b.settings.qaCooldown w.clock = .ok false := by
  obtain ⟨v, hlapsed, h⟩ := h
  simp only [collaborators, World.onStoreNow_apply, Store.didJustFail] at h
  rcases Store.reading_cases [.workflowState]
    (fun s => s.workflow.find? fun x => x.issueId == issueId) v.store with
    ⟨-, hread⟩ | ⟨e, -, hread⟩
  · rw [Run.bind_of_ok (x := Store.getWorkflow issueId) hread, hlapsed.workflow, hx,
      hlapsed.clock] at h
    exact h
  · rw [Run.bind_of_error (x := Store.getWorkflow issueId) hread] at h
    cases h

end StoreBacked

/-- An issue that awaits no response has no touchpoint that is open, has a finite window and is
inside it. -/
lemma Governor.hasTimedOut_of_answers {g : Governor ω} {e : Escalation ω} {w : World ω}
    {issueId : String} (he : g.escalation = some e)
    (h : w.Answers (g.awaiting issueId) false) {t : Touchpoint} (ht : t ∈ w.store.touchpoints)
    (hissue : t.issueId = issueId) (hopen : t.isOpen = true) {window : Binary64}
    (hwindow : t.timeout = some window) (hfinite : window.isFinite = true) :
    t.postedAt + window < w.clock := by
  obtain ⟨v, hlapsed, h⟩ := h
  rw [awaiting, he] at h
  simp only [Escalation.isAwaiting] at h
  rw [Run.bind_of_ok (World.now_apply v)] at h
  rcases Store.reading_cases [.touchpoints]
    (fun s => (s.openTouchpoints (some issueId)).map Touchpoint.toNotification) v.store with
    ⟨-, hread⟩ | ⟨e, -, hread⟩
  · rw [Run.bind_of_ok (World.onStore_of_eq (x := Store.pendingTouchpoints (some issueId)) hread)]
      at h
    have hlist : t.toNotification ∈
        (v.store.openTouchpoints (some issueId)).map Touchpoint.toNotification := by
      refine List.mem_map_of_mem (List.mem_mergeSort.2 (List.mem_filter.2 ⟨?_, ?_⟩))
      · rwa [hlapsed.touchpoints]
      · rw [hopen, Bool.true_and]
        split
        · rfl
        · rfl
        · rename_i heq
          simp [hissue, ← Option.some.inj heq]
    have hany := List.any_eq_false.1 (Except.ok.inj h) _ hlist
    have htimeout : t.toNotification.timeout = window := by
      simp [Touchpoint.toNotification, hwindow]
    have hover : t.toNotification.respondedAt = none ∧
        t.toNotification.postedAt + window < w.clock := by
      simpa [Notification.hasTimedOut, htimeout, hfinite, hlapsed.clock] using hany
    exact hover.2
  · rw [Run.bind_of_error (World.onStore_of_eq
      (x := Store.pendingTouchpoints (some issueId)) hread)] at h
    cases h

end IssueDispatch
