import IssueDispatch.Governor.Scan
import IssueDispatch.Proofs.Decision
import IssueDispatch.Proofs.Governor.Progress
import IssueDispatch.Proofs.Governor.Questions
import Mathlib.Data.List.Basic

/-!
# What a governor decides

With all tables there and a steady tracker, every question of a governor has a definite answer, so
that what is decided about an issue is a function of the world: `Governor.verdict`.  The answers
depend on little: the clock, the records of failed cycles, the touchpoints, the completed phases,
the override in force, and whether the issue is busy (`Governor.verdict_congr`).  Placing a session
for another issue changes none of these.
-/

namespace IssueDispatch

variable {ω α β : Type}

/-! ## Answers with what they leave behind -/

/-- What a question answers, and the issues whose overrides are read for it. -/
def World.Tells {b : StoreBacked ω} (steady : b.tracker.Steady) (w : World ω)
    (x : Run (World ω) α) (ids : List String) (answer : Except Fault α) : Prop :=
  ∃ w', x w = (answer, w') ∧ w.Advances steady ids [] w'

namespace World.Tells

variable {b : StoreBacked ω} {steady : b.tracker.Steady} {w v : World ω} {ids ids' : List String}

/-- A question that changes nothing. -/
lemma of_eq {x : Run (World ω) α} {answer : Except Fault α} (h : x w = (answer, w)) :
    w.Tells steady x [] answer :=
  ⟨w, h, .refl w⟩

lemma of_yields {x : Run (World ω) α} {answer : Except Fault α}
    (h : Run.Yields steady.Unused x answer) : w.Tells steady x [] answer := by
  obtain ⟨w', hx, hused⟩ := h w
  exact ⟨w', hx, .of_usesUp hused⟩

/-- A computation that asks a question in passing goes on with its answer. -/
lemma goesOn {x : Run (World ω) α} {answer : Except Fault α} {f : Except Fault α → Run (World ω) β}
    {r : Except Fault β × World ω} (hv : w.Advances steady ids [] v)
    (hx : v.Tells steady x ids' answer) (h : (Run.attempt x >>= f) v = r) :
    ∃ v', w.Advances steady (ids ++ ids') [] v' ∧ f answer v' = r := by
  obtain ⟨v', hx, hv'⟩ := hx
  refine ⟨v', hv.trans hv', ?_⟩
  rwa [Run.bind_of_ok (Run.attempt_apply x v), hx] at h

end World.Tells

/-! ## Facts in the tables -/

namespace Store

variable {s : Store}

/-- Whether an issue failed less than a cooldown ago. -/
def justFailed (s : Store) (issueId : String) (cooldown : Value) (now : Binary64) :
    Except Fault Bool :=
  (s.workflow.find? fun x => x.issueId == issueId).elim (.ok false) fun x =>
    x.didJustFail cooldown now

/-- Whether an issue awaits a response. -/
def awaitsResponse (s : Store) (issueId : String) (now : Binary64) : Bool :=
  ((s.openTouchpoints (some issueId)).map Touchpoint.toNotification).any fun n =>
    n.timeout.isFinite && !n.hasTimedOut now

lemma didJustFail_of_has (h : s.Has [.workflowState]) (issueId : String) (cooldown : Value)
    (now : Binary64) :
    didJustFail issueId cooldown now s = (s.justFailed issueId cooldown now, s) := by
  have hread : getWorkflow issueId s =
      (.ok (s.workflow.find? fun x => x.issueId == issueId), s) := reading_of_has h _
  rw [didJustFail, Run.bind_of_ok hread, justFailed]
  cases s.workflow.find? fun x => x.issueId == issueId <;> rfl

lemma getStrategy_of_has (h : s.Has [.workflowState]) (issueId : String) :
    getStrategy issueId s =
      (.ok ((s.workflow.find? fun x => x.issueId == issueId).map WorkflowState.strategy), s) := by
  have hread : getWorkflow issueId s =
      (.ok (s.workflow.find? fun x => x.issueId == issueId), s) := reading_of_has h _
  rw [getStrategy, Run.bind_of_ok hread]
  rfl

end Store

/-! ## Overrides -/

namespace OverrideShelf

variable {shelf : OverrideShelf} {w : World ω}

/-- If there is nothing that is over, reading changes nothing; otherwise what is over goes. -/
lemma afterReading_singleton (os : List Override) (now : Binary64) (issueId : String) :
    afterReading os now [issueId] =
      if hasLapsed os now issueId then os.filter fun o => o.issueId != issueId else os := by
  split
  · rename_i hlapsed
    refine List.filter_congr fun o _ => ?_
    by_cases hissue : o.issueId = issueId
    · simp [hissue, hlapsed]
    · simp [hissue]
  · rename_i hvalid
    refine List.filter_eq_self.2 fun o _ => ?_
    by_cases hissue : o.issueId = issueId
    · simp [hissue, hvalid]
    · simp [hissue]

end OverrideShelf

namespace StoreBacked

variable {b : StoreBacked ω} {steady : b.tracker.Steady} {w : World ω}

/-- Clearing the override of an issue that is over is what reading it leaves behind. -/
lemma clear_of_hasLapsed (hready : w.IsReady steady) {issueId : String}
    (hlapsed : OverrideShelf.hasLapsed (b.shelf.kept w) w.clock issueId = true) :
    ∃ w', b.shelf.clear issueId w = (.ok (), w') ∧ w.Advances steady [issueId] [] w' := by
  have hkept := OverrideShelf.afterReading_singleton (b.shelf.kept w) w.clock issueId
  rw [if_pos hlapsed] at hkept
  cases hshelf : b.shelf with
  | inProcess =>
    rw [hshelf] at hkept
    let w' : World ω := { w with overrides := w.overrides.filter fun o => o.issueId != issueId }
    refine ⟨w', rfl, .of_kept rfl rfl (fun shelf => ?_) fun _ hid => hid⟩
    cases shelf with
    | inProcess => rw [if_pos hshelf.symm, hkept]; rfl
    | shared => rw [if_neg (by simp [hshelf])]; rfl
  | shared =>
    rw [hshelf] at hkept
    let w' : World ω := { w with store := { w.store with
      overrides := w.store.overrides.filter fun o => o.issueId != issueId } }
    have hclear : OverrideShelf.shared.clear issueId w = (.ok (), w') :=
      World.onStore_of_eq (Store.changing_of_has (Store.has_of_missing hready.missing _) _)
    refine ⟨w', hclear, .of_kept rfl rfl (fun shelf => ?_) fun _ hid => hid⟩
    cases shelf with
    | shared => rw [if_pos hshelf.symm, hkept]; rfl
    | inProcess => rw [if_neg (by simp [hshelf])]; rfl

/-- A shelf answers with what is in force. -/
lemma tells_get (hready : w.IsReady steady) (issueId : String) :
    w.Tells steady (b.shelf.get issueId) [issueId] (.ok (b.shelf.inForce w issueId)) := by
  have hthere : b.shelf.IsThere w := OverrideShelf.isThere_of_missing hready.missing
  have hfind := OverrideShelf.find_of_isThere hthere issueId
  have hkept := OverrideShelf.afterReading_singleton (b.shelf.kept w) w.clock issueId
  have hunchanged (hvalid : OverrideShelf.hasLapsed (b.shelf.kept w) w.clock issueId = false) :
      w.Advances steady [issueId] [] w := by
    rw [hvalid, if_neg Bool.false_ne_true] at hkept
    refine { World.Advances.refl w with kept := fun shelf => ?_ }
    split
    · rename_i hshelf
      rw [hshelf, hkept]
    · rfl
  unfold World.Tells
  rw [OverrideShelf.get, Run.bind_of_ok hfind, OverrideShelf.inForce, OverrideShelf.current]
  rcases ho : (b.shelf.kept w).find? (fun o => o.issueId == issueId) with - | o
  · rw [ho]
    exact ⟨w, rfl, hunchanged (by simp [OverrideShelf.hasLapsed, ho])⟩
  · have hlapsed : OverrideShelf.hasLapsed (b.shelf.kept w) w.clock issueId =
        o.isExpired w.clock := by simp [OverrideShelf.hasLapsed, ho]
    rw [ho, Option.filter_some]
    dsimp only
    rw [Run.bind_of_ok (World.now_apply w)]
    cases hover : o.isExpired w.clock with
    | true =>
      obtain ⟨w', hclear, hadvances⟩ := clear_of_hasLapsed hready (hlapsed.trans hover)
      exact ⟨w', Run.bind_of_ok hclear, hadvances⟩
    | false => exact ⟨w, rfl, hunchanged (hlapsed.trans hover)⟩

/-! ## The questions

Each of them is asked at a world `v` in which some overrides have been read since `w`; its answer is
the one at `w`. -/

section Questions

variable {v : World ω} {ids : List String} (hv : w.Advances steady ids [] v)
  (hready : w.IsReady steady) (issueId : String)

include hv hready

lemma tells_reading (ts : List Table) (f : Store → α) :
    v.Tells steady (World.onStore (Store.reading ts f)) [] (.ok (f v.store)) :=
  .of_eq (World.onStore_of_eq
    (Store.reading_of_has (Store.has_of_missing (hv.isReady hready).missing ts) f))

lemma tells_hasActiveSession :
    v.Tells steady (b.collaborators.hasActiveSession issueId) []
      (.ok (w.store.isBusy issueId)) := by
  have hbusy : v.store.isBusy issueId = w.store.isBusy issueId := by
    rw [hv.isBusy, List.any_nil, Bool.or_false]
  rw [← hbusy]
  exact tells_reading hv hready _ fun s => s.isBusy issueId

lemma tells_hasDirective (kind : DirectiveKind) :
    v.Tells steady (b.shelf.hasDirective issueId kind) [issueId]
      (.ok ((b.shelf.inForce w issueId).any fun o => o.orders kind)) := by
  obtain ⟨v', hget, hv'⟩ := tells_get (hv.isReady hready) issueId
  rw [hv.inForce] at hget
  exact ⟨v', Run.bind_of_ok hget, hv'⟩

/-- An issue is held if it is paused or belongs to a human. -/
lemma tells_isHeld :
    v.Tells steady (b.collaborators.isHeld issueId) [issueId] (.ok
      ((b.shelf.inForce w issueId).any fun o => o.orders .hold || o.orders .reassign)) := by
  obtain ⟨v₁, hhold, hv₁⟩ := tells_hasDirective hv hready issueId .hold
  have hor : ((b.shelf.inForce w issueId).any fun o => o.orders .hold || o.orders .reassign) =
      ((b.shelf.inForce w issueId).any (·.orders .hold) ||
        (b.shelf.inForce w issueId).any (·.orders .reassign)) := by
    cases b.shelf.inForce w issueId <;> rfl
  change v.Tells steady (b.isHeld issueId) [issueId] _
  unfold World.Tells
  rw [isHeld, Run.bind_of_ok (show b.shelf.isHeld issueId v = _ from hhold), hor]
  cases hheld : (b.shelf.inForce w issueId).any (·.orders .hold) with
  | true => exact ⟨v₁, rfl, hv₁⟩
  | false =>
    obtain ⟨v₂, hreassign, hv₂⟩ := tells_hasDirective (hv.trans hv₁) hready issueId .reassign
    exact ⟨v₂, hreassign, (hv₁.trans hv₂).of_mem_iff (by simp)⟩

lemma tells_isWithinCooldown :
    v.Tells steady (b.collaborators.isWithinCooldown issueId) []
      (w.store.justFailed issueId b.settings.qaCooldown w.clock) := by
  have hsame : v.store.justFailed issueId b.settings.qaCooldown v.clock =
      w.store.justFailed issueId b.settings.qaCooldown w.clock := by
    rw [Store.justFailed, hv.workflow, hv.clock, Store.justFailed]
  rw [← hsame]
  exact .of_eq (World.onStoreNow_of_eq
    (Store.didJustFail_of_has (Store.has_of_missing (hv.isReady hready).missing _) _ _ _))

lemma tells_strategy :
    v.Tells steady (b.collaborators.strategy issueId) [] (.ok
      ((w.store.workflow.find? fun x => x.issueId == issueId).map WorkflowState.strategy)) := by
  rw [← hv.workflow]
  exact .of_eq (World.onStore_of_eq
    (Store.getStrategy_of_has (Store.has_of_missing (hv.isReady hready).missing _) _))

lemma tells_isCompleted (phase : String) :
    v.Tells steady (World.onStore (Store.isCompleted issueId phase)) []
      (.ok (w.store.phases.any (·.isOf issueId phase))) := by
  rw [← hv.phases]
  exact tells_reading hv hready _ fun s => s.phases.any (·.isOf issueId phase)

lemma tells_priority :
    v.Tells steady (b.shelf.priority issueId) [issueId]
      (.ok ((b.shelf.inForce w issueId).bind Override.priority?)) := by
  obtain ⟨v', hget, hv'⟩ := tells_get (hv.isReady hready) issueId
  rw [hv.inForce] at hget
  exact ⟨v', Run.bind_of_ok hget, hv'⟩

lemma tells_awaiting (g : Governor ω) :
    v.Tells steady (g.awaiting issueId) []
      (.ok (g.escalation.isSome && w.store.awaitsResponse issueId w.clock)) := by
  have hsame : v.store.awaitsResponse issueId v.clock =
      w.store.awaitsResponse issueId w.clock := by
    rw [Store.awaitsResponse, Store.openTouchpoints, hv.touchpoints, hv.clock]
    rfl
  rw [← hsame, Governor.awaiting]
  cases g.escalation with
  | none => exact .of_eq rfl
  | some e =>
    obtain ⟨v', hpending, hv'⟩ := tells_reading hv hready [.touchpoints] fun s =>
      (s.openTouchpoints (some issueId)).map Touchpoint.toNotification
    refine ⟨v', ?_, hv'⟩
    change e.isAwaiting issueId none v = _
    rw [Escalation.isAwaiting, Run.bind_of_ok (World.now_apply v)]
    exact Run.bind_of_ok hpending

end Questions

lemma tells_isParentIssue (v : World ω) (issueId : String) :
    v.Tells steady (b.collaborators.isParentIssue issueId) [] (steady.parent issueId) := by
  have hyields := steady.isParentIssue issueId
  dsimp only [collaborators]
  cases hcheck : b.tracker.isParentIssue with
  | none =>
    rw [hcheck] at hyields
    exact .of_yields hyields
  | some check =>
    rw [hcheck] at hyields
    exact .of_yields hyields

end StoreBacked

/-! ## Decisions -/

namespace Governor

variable {g : Governor ω} {b : StoreBacked ω} {steady : b.tracker.Steady} {w w' : World ω}
  {issue : Issue}

/-- The facts about an issue as the tables and the tracker show them. -/
def facts (g : Governor ω) {b : StoreBacked ω} (steady : b.tracker.Steady) (w : World ω)
    (issueId : String) : Except Fault Context := do
  let isWithinCooldown ← w.store.justFailed issueId b.settings.qaCooldown w.clock
  let isParentIssue ← steady.parent issueId
  return {
    hasActiveSession := w.store.isBusy issueId
    isHeld := (b.shelf.inForce w issueId).any fun o => o.orders .hold || o.orders .reassign
    isWithinCooldown
    isParentIssue
    strategy := (w.store.workflow.find? fun x => x.issueId == issueId).map WorkflowState.strategy
    researchCompleted := w.store.phases.any (·.isOf issueId Phase.research.name)
    backlogCreationCompleted := w.store.phases.any (·.isOf issueId Phase.backlogCreation.name)
    awaitingResponse := g.escalation.isSome && w.store.awaitsResponse issueId w.clock
    now := some w.clock }

/-- What a governor decides about an issue, with the priority of its override. -/
def verdict (g : Governor ω) (w : World ω) (issue : Issue) :
    Except Fault (Decision × Option OverridePriority) :=
  (g.evaluate issue w).1

/-- An issue with what is decided about it, if it calls for an action. -/
def actionable? (g : Governor ω) (w : World ω) (issue : Issue) : Option Actionable :=
  match g.verdict w issue with
  | .ok (.dispatch action workType reason, priority) =>
    some { issue, decision := .dispatch action workType reason, priority }
  | _ => none

/-- Gathering gives the facts and reads the override of the issue. -/
lemma tells_gather (hcollaborators : g.collaborators = b.collaborators)
    (hready : w.IsReady steady) (issue : Issue) :
    w.Tells steady (g.gather issue) [issue.id] ((g.facts steady w issue.id).map fun ctx =>
      (ctx, (b.shelf.inForce w issue.id).bind Override.priority?)) := by
  obtain ⟨r, hr⟩ : ∃ r, g.gather issue w = r := ⟨_, rfl⟩
  have h := hr
  rw [gather, hcollaborators] at h
  dsimp only at h
  obtain ⟨v, hv, h⟩ := World.Tells.goesOn (.refl w)
    (StoreBacked.tells_hasActiveSession (.refl w) hready issue.id) h
  obtain ⟨v, hv, h⟩ := World.Tells.goesOn hv (StoreBacked.tells_isHeld hv hready issue.id) h
  obtain ⟨v, hv, h⟩ :=
    World.Tells.goesOn hv (StoreBacked.tells_isWithinCooldown hv hready issue.id) h
  obtain ⟨v, hv, h⟩ := World.Tells.goesOn hv (StoreBacked.tells_isParentIssue v issue.id) h
  obtain ⟨v, hv, h⟩ := World.Tells.goesOn hv (StoreBacked.tells_strategy hv hready issue.id) h
  obtain ⟨v, hv, h⟩ := World.Tells.goesOn hv (StoreBacked.tells_isCompleted hv hready issue.id _) h
  obtain ⟨v, hv, h⟩ := World.Tells.goesOn hv (StoreBacked.tells_isCompleted hv hready issue.id _) h
  obtain ⟨v, hv, h⟩ := World.Tells.goesOn hv (StoreBacked.tells_awaiting hv hready issue.id g) h
  obtain ⟨v, hv, h⟩ := World.Tells.goesOn hv (StoreBacked.tells_priority hv hready issue.id) h
  -- All questions have been asked; what follows reports the first fault among the answers.
  refine ⟨v, ?_, hv.of_mem_iff (by simp)⟩
  rw [hr, ← h, facts, ← hv.clock]
  rcases w.store.justFailed issue.id b.settings.qaCooldown v.clock with e | isWithinCooldown
  · rfl
  · rcases steady.parent issue.id with e | isParentIssue
    · rfl
    · rfl

/-- Evaluating decides by the facts and reads the override of the issue. -/
lemma tells_evaluate (hcollaborators : g.collaborators = b.collaborators)
    (hready : w.IsReady steady) (issue : Issue) :
    w.Tells steady (g.evaluate issue) [issue.id] (do
      let ctx ← g.facts steady w issue.id
      let d ← issue.decide g.settings ctx
      return (d, (b.shelf.inForce w issue.id).bind Override.priority?)) := by
  obtain ⟨v, hgather, hv⟩ := tells_gather hcollaborators hready issue
  refine ⟨v, ?_, hv⟩
  rcases hfacts : g.facts steady w issue.id with e | ctx <;> rw [hfacts] at hgather
  · exact Run.bind_of_error hgather
  · rw [evaluate, Run.bind_of_ok hgather]
    change (Run.ofExcept (issue.decide g.settings ctx) >>= fun d => pure (d, _)) v =
      (issue.decide g.settings ctx >>= fun d => pure (d, _), v)
    rcases issue.decide g.settings ctx with e | d
    · exact Run.bind_of_error (Run.ofExcept_apply _ v)
    · exact Run.bind_of_ok (Run.ofExcept_apply _ v)

lemma verdict_eq (hcollaborators : g.collaborators = b.collaborators)
    (hready : w.IsReady steady) (issue : Issue) :
    g.verdict w issue = (do
      let ctx ← g.facts steady w issue.id
      let d ← issue.decide g.settings ctx
      return (d, (b.shelf.inForce w issue.id).bind Override.priority?)) := by
  obtain ⟨v, hevaluate, -⟩ := tells_evaluate hcollaborators hready issue
  rw [verdict, hevaluate]

/-! ## What a decision depends on -/

/-- The decision about an issue is the same wherever the same is known about it. -/
lemma verdict_congr (hcollaborators : g.collaborators = b.collaborators)
    (hready : w.IsReady steady) (hready' : w'.IsReady steady) (hclock : w'.clock = w.clock)
    (hworkflow : w'.store.workflow = w.store.workflow)
    (htouchpoints : w'.store.touchpoints = w.store.touchpoints)
    (hphases : w'.store.phases = w.store.phases)
    (hinForce : b.shelf.inForce w' issue.id = b.shelf.inForce w issue.id)
    (hbusy : w'.store.isBusy issue.id = w.store.isBusy issue.id) :
    g.verdict w' issue = g.verdict w issue := by
  have hjust : w'.store.justFailed = w.store.justFailed := by
    unfold Store.justFailed
    rw [hworkflow]
  have hawaits : w'.store.awaitsResponse = w.store.awaitsResponse := by
    unfold Store.awaitsResponse Store.openTouchpoints
    rw [htouchpoints]
  have hfacts : g.facts steady w' issue.id = g.facts steady w issue.id := by
    unfold facts
    rw [hjust, hawaits, hclock, hworkflow, hphases, hinForce, hbusy]
  rw [verdict_eq hcollaborators hready', verdict_eq hcollaborators hready, hfacts, hinForce]

lemma hasActiveSession_of_facts {issueId : String} {ctx : Context}
    (h : g.facts steady w issueId = .ok ctx) : ctx.hasActiveSession = w.store.isBusy issueId := by
  unfold facts at h
  rcases hjust : w.store.justFailed issueId b.settings.qaCooldown w.clock with e | isWithinCooldown
    <;> rw [hjust] at h
  · cases h
  change (steady.parent issueId >>= _) = _ at h
  rcases hparent : steady.parent issueId with e | isParentIssue <;> rw [hparent] at h
  · cases h
  · rw [← Except.ok.inj h]

/-- An issue calls for an action only if it is not busy, and then with the priority in force. -/
lemma of_actionable?_eq_some (hcollaborators : g.collaborators = b.collaborators)
    (hready : w.IsReady steady) {a : Actionable} (h : g.actionable? w issue = some a) :
    a.issue = issue ∧ a.decision.isActionable = true ∧
      a.priority = (b.shelf.inForce w issue.id).bind Override.priority? ∧
      w.store.isBusy issue.id = false := by
  unfold actionable? at h
  split at h
  · rename_i action workType reason priority hverdict
    obtain rfl := Option.some.inj h
    rw [verdict_eq hcollaborators hready] at hverdict
    rcases hfacts : g.facts steady w issue.id with e | ctx <;> rw [hfacts] at hverdict
    · cases hverdict
    change (issue.decide g.settings ctx >>= fun d => pure (d, _)) = _ at hverdict
    rcases hdecide : issue.decide g.settings ctx with e | d <;> rw [hdecide] at hverdict
    · cases hverdict
    obtain ⟨rfl, rfl⟩ := Prod.mk.inj (Except.ok.inj hverdict)
    obtain ⟨hguard, -⟩ := of_decide_eq_ok hdecide rfl
    refine ⟨rfl, rfl, rfl, ?_⟩
    rw [← hasActiveSession_of_facts hfacts]
    exact (guard?_eq_none_iff.1 hguard).2.1
  · cases h

/-- While a governor makes progress, what an issue calls for stays the same until a session is
placed for it; then it calls for nothing any more. -/
lemma actionable?_of_advances (hcollaborators : g.collaborators = b.collaborators)
    (hready : w.IsReady steady) {ids : List String} {ps : List Placement}
    (h : w.Advances steady ids ps w') (issue : Issue) :
    g.actionable? w' issue =
      (g.actionable? w issue).filter fun a => !w'.store.isBusy a.issue.id := by
  have hready' := h.isReady hready
  cases hbusy : w'.store.isBusy issue.id with
  | true =>
    have hnone : g.actionable? w' issue = none := by
      refine Option.eq_none_iff_forall_ne_some.2 fun a ha => ?_
      have hidle := (of_actionable?_eq_some hcollaborators hready' ha).2.2.2
      rw [hbusy] at hidle
      cases hidle
    rw [hnone, eq_comm, Option.filter_eq_none_iff]
    intro a ha
    rw [(of_actionable?_eq_some hcollaborators hready ha).1, hbusy]
    exact Bool.false_ne_true
  | false =>
    have hidle : w.store.isBusy issue.id = false := by
      rw [h.isBusy, Bool.or_eq_false_iff] at hbusy
      exact hbusy.1
    have hverdict : g.verdict w' issue = g.verdict w issue :=
      verdict_congr hcollaborators hready hready' h.clock h.workflow h.touchpoints h.phases
        (h.inForce b.shelf issue.id) (hbusy.trans hidle.symm)
    have hsame : g.actionable? w' issue = g.actionable? w issue := by
      rw [actionable?, hverdict, actionable?]
    rw [hsame]
    cases ha : g.actionable? w issue with
    | none => rfl
    | some a =>
      rw [Option.filter_some, (of_actionable?_eq_some hcollaborators hready ha).1, hbusy]
      rfl

/-- The issues of a list that call for an action. -/
def actionables (g : Governor ω) (w : World ω) (issues : List Issue) : List Actionable :=
  issues.filterMap (g.actionable? w)

/-- What the issues of a list call for later on is what they call for now, but for those that have
become busy. -/
lemma actionables_of_advances (hcollaborators : g.collaborators = b.collaborators)
    (hready : w.IsReady steady) {ids : List String} {ps : List Placement}
    (h : w.Advances steady ids ps w') (issues : List Issue) :
    g.actionables w' issues =
      (g.actionables w issues).filter fun a => !w'.store.isBusy a.issue.id := by
  rw [actionables, actionables, List.filter_filterMap]
  refine List.filterMap_congr fun issue _ => ?_
  exact actionable?_of_advances hcollaborators hready h issue

end Governor

end IssueDispatch
