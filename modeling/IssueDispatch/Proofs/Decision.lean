import IssueDispatch.Decision
import Mathlib.Tactic.Lemma

/-!
# What a decision presupposes

An action is taken only if no guard holds the issue back, and the two actions that follow upon
repeated failures are taken only if no response is awaited.  An issue is never skipped by a decision
for the reason that is kept for scans, and no other reason is worded like it.
-/

namespace IssueDispatch

variable {issue : Issue} {settings : Settings} {ctx : Context} {d : Decision} {action : Action}

/-- No guard holds an issue back exactly if none of its conditions is met. -/
lemma guard?_eq_none_iff :
    guard? issue settings ctx = none ↔
      ctx.isHeld = false ∧ ctx.hasActiveSession = false ∧ ctx.isWithinCooldown = false ∧
        settings.statuses.isTerminal issue.status = false ∧
        settings.statuses.started.names issue.status = false := by
  rw [guard?]
  cases ctx.isHeld <;> cases ctx.hasActiveSession <;> cases ctx.isWithinCooldown <;>
    cases settings.statuses.isTerminal issue.status <;>
    cases settings.statuses.started.names issue.status <;> simp

/-- Whether an action has to wait while a response is awaited. -/
def Action.awaitsResponse : Action → Bool
  | .triggerRefinement | .decompose => true
  | _ => false

/-- In the icebox, backlog creation is the only thing that follows research. -/
lemma eq_of_decideBacklogCreation (h : (decideBacklogCreation settings ctx).action? = some action) :
    action = .triggerBacklogCreation := by
  rw [decideBacklogCreation] at h
  split at h
  · cases h
  split at h
  · cases h
  split at h <;> exact (Option.some.inj h).symm

/-- Research is the only thing that is done about an issue that needs it. -/
lemma eq_of_decideResearch (h : (decideResearch issue settings ctx).action? = some action) :
    action = .triggerResearch := by
  rw [decideResearch] at h
  split at h
  · cases h
  split at h <;> exact (Option.some.inj h).symm

/-- No action in the icebox waits for a response. -/
lemma awaitsResponse_of_decideIcebox (h : decideIcebox issue settings ctx = .ok d)
    (haction : d.action? = some action) : action.awaitsResponse = false := by
  have hcreation (hd : decideBacklogCreation settings ctx = d) :
      action.awaitsResponse = false := by
    rw [← hd] at haction
    rw [eq_of_decideBacklogCreation haction]
    rfl
  have hresearch (hd : decideResearch issue settings ctx = d) : action.awaitsResponse = false := by
    rw [← hd] at haction
    rw [eq_of_decideResearch haction]
    rfl
  have hskip {reason : SkipReason} (hd : .skip reason = d) : action.awaitsResponse = false := by
    rw [← hd] at haction
    cases haction
  rw [decideIcebox] at h
  split at h
  · exact hskip (Except.ok.inj h)
  split at h
  · exact hskip (Except.ok.inj h)
  cases hdescription : settings.icebox.isWellResearched issue.description with
  | error e =>
    rw [hdescription] at h
    cases h
  | ok wellResearched =>
    rw [hdescription] at h
    change (if ctx.researchCompleted = true then _ else _) = _ at h
    split at h
    · exact hcreation (Except.ok.inj h)
    have hrest (h : (if (!wellResearched) = true then pure (Decision.skip .researchDisabled)
        else pure (decideBacklogCreation settings ctx) : Except Fault Decision) = .ok d) :
        action.awaitsResponse = false := by
      split at h
      · exact hskip (Except.ok.inj h)
      · exact hcreation (Except.ok.inj h)
    split at h
    · cases hneeds : settings.icebox.needsResearch issue with
      | error e =>
        rw [hneeds] at h
        cases h
      | ok needed =>
        rw [hneeds] at h
        change (if needed = true then _ else _) = _ at h
        split at h
        · exact hresearch (Except.ok.inj h)
        · exact hrest h
    · exact hrest h

/-- Nothing that is done about issues in the backlog or delivered ones waits for a response. -/
lemma awaitsResponse_of_decideBacklog
    (h : (decideBacklog issue settings ctx).action? = some action) :
    action.awaitsResponse = false := by
  rw [decideBacklog] at h
  split at h
  · cases h
  split at h
  · cases h
  split at h <;>
  · rw [← Option.some.inj h]
    rfl

lemma awaitsResponse_of_decideDelivered (h : (decideDelivered settings).action? = some action) :
    action.awaitsResponse = false := by
  rw [decideDelivered] at h
  split at h
  · cases h
  · rw [← Option.some.inj h]
    rfl

/-- A finished issue is broken up only if no response is awaited. -/
lemma not_awaiting_of_decideFinished (h : (decideFinished settings ctx).action? = some action)
    (hwaits : action.awaitsResponse = true) : ctx.awaitingResponse = false := by
  rw [decideFinished] at h
  split at h
  · cases h
  split at h
  · rw [← Option.some.inj h] at hwaits
    cases hwaits
  split at h
  · split at h
    · cases h
    · rename_i hawaiting
      simpa using hawaiting
  · rw [← Option.some.inj h] at hwaits
    cases hwaits

/-- A rejected issue is refined or broken up only if no response is awaited. -/
lemma not_awaiting_of_decideRejected (h : (decideRejected ctx).action? = some action)
    (hwaits : action.awaitsResponse = true) : ctx.awaitingResponse = false := by
  rw [decideRejected] at h
  split at h
  · rw [← Option.some.inj h] at hwaits
    cases hwaits
  split at h
  · cases h
  · rename_i hawaiting
    simpa using hawaiting

/-- An action is taken only past all guards, and one that awaits a response only if none is
awaited. -/
lemma of_decide_eq_ok (h : issue.decide settings ctx = .ok d) (haction : d.action? = some action) :
    guard? issue settings ctx = none ∧
      (action.awaitsResponse = true → ctx.awaitingResponse = false) := by
  rw [Issue.decide] at h
  split at h
  · rw [← Except.ok.inj h] at haction
    cases haction
  rename_i hguard
  refine ⟨hguard, fun hwaits => ?_⟩
  split at h
  · rw [awaitsResponse_of_decideIcebox h haction] at hwaits
    cases hwaits
  all_goals rw [← Except.ok.inj h] at haction
  · rw [awaitsResponse_of_decideBacklog haction] at hwaits
    cases hwaits
  · exact not_awaiting_of_decideFinished haction hwaits
  · rw [awaitsResponse_of_decideDelivered haction] at hwaits
    cases hwaits
  · exact not_awaiting_of_decideRejected haction hwaits
  · cases haction

/-! ## The reason that is kept for scans -/

lemma guard?_ne_dispatchLimit : guard? issue settings ctx ≠ some .dispatchLimit := by
  rw [guard?]
  repeat' split
  all_goals simp

lemma decideBacklogCreation_ne_dispatchLimit :
    decideBacklogCreation settings ctx ≠ .skip .dispatchLimit := by
  rw [decideBacklogCreation]
  repeat' split
  all_goals simp [Decision.act]

lemma decideResearch_ne_dispatchLimit :
    decideResearch issue settings ctx ≠ .skip .dispatchLimit := by
  rw [decideResearch]
  repeat' split
  all_goals simp [Decision.act]

lemma decideIcebox_ne_dispatchLimit :
    decideIcebox issue settings ctx ≠ .ok (.skip .dispatchLimit) := by
  have hcreation : decideBacklogCreation settings ctx ≠ .skip .dispatchLimit :=
    decideBacklogCreation_ne_dispatchLimit
  have hresearch : decideResearch issue settings ctx ≠ .skip .dispatchLimit :=
    decideResearch_ne_dispatchLimit
  rw [decideIcebox]
  cases settings.icebox.isWellResearched issue.description <;>
    cases settings.icebox.needsResearch issue <;>
    simp only [bind, Except.bind, pure, Except.pure]
  all_goals repeat' split
  all_goals simp_all

/-- No decision skips an issue because the limit of dispatches has been reached. -/
lemma decide_ne_dispatchLimit : issue.decide settings ctx ≠ .ok (.skip .dispatchLimit) := by
  rw [Issue.decide]
  split
  · rename_i reason hguard
    intro h
    cases h
    exact guard?_ne_dispatchLimit hguard
  split
  · exact decideIcebox_ne_dispatchLimit
  · rw [decideBacklog]
    repeat' split
    all_goals simp [Decision.act]
  · rw [decideFinished]
    repeat' split
    all_goals simp [Decision.act]
  · rw [decideDelivered]
    repeat' split
    all_goals simp [Decision.act]
  · rw [decideRejected]
    repeat' split
    all_goals simp [Decision.act]
  · simp

/-- Texts that begin with different characters are different, whatever follows. -/
lemma append_ne_of_head? {a b : String} {x y : Char} (ha : a.toList.head? = some x)
    (hb : b.toList.head? = some y) (hne : x ≠ y) (rest : String) : a ++ rest ≠ b := by
  intro h
  have hheads := congrArg (fun t => t.toList.head?) h
  rw [String.toList_append, List.head?_append, ha, hb] at hheads
  exact hne (Option.some.inj hheads)

/-- No other reason is worded as the one that a scan gives. -/
lemma SkipReason.message_eq_iff {reason : SkipReason} :
    reason.message = "dispatch limit reached" ↔ reason = .dispatchLimit := by
  have hlimit : "dispatch limit reached".toList.head? = some 'd' := by decide
  constructor
  · intro h
    cases reason with
    | dispatchLimit => rfl
    | terminal status =>
      exact absurd h (append_ne_of_head? (x := 't') (by decide) hlimit (by decide) status)
    | tooYoung age delay =>
      unfold message at h
      dsimp only at h
      rw [String.append_assoc, String.append_assoc, String.append_assoc] at h
      exact absurd h (append_ne_of_head? (x := 'n') (by decide) hlimit (by decide) _)
    | _ => exact absurd h (by decide)
  · rintro rfl
    rfl

end IssueDispatch
