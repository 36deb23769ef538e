import IssueDispatch.Proofs.Governor.Announcing
import IssueDispatch.Proofs.Governor.Climbing
import IssueDispatch.Proofs.Governor.FreshStart
import IssueDispatch.Proofs.Governor.Parking

/-!
# The staircase

`World.failuresAfter` collects the failed cycles of an issue in the course of a run, each with its
summary, and begins anew when the issue is resumed.  At any point of the run this is what the record
of the issue comes to: the count is the number of the failures, and the summary is theirs, joined in
order.  Successes, other directives, touchpoints that time out and whatever happens to other issues
rewrite the record or leave it alone, but they change neither of the two.

A failed cycle sets the strategy anew.  So the number of failures since the last fresh start decides
all that a failed cycle brings about, whatever strategy has been ordered or proposed before it: the
first two post a review request, the third one posts a proposal to break the issue up, and all
others post an alert and leave the issue to a human.
-/

namespace IssueDispatch

variable {ω : Type} {shelf : OverrideShelf} {issueId : String} {w w' : World ω}

/-! ## Tallies -/

namespace WorkflowState

variable {x y : WorkflowState} {failures : List (Option String)}

/-- The summaries of some failed cycles that say anything. -/
def told (failures : List (Option String)) : List String :=
  failures.filterMap fun summary => summary.filter (· ≠ "")

/-- The summaries of some failed cycles in order, unless none says anything. -/
def joined (failures : List (Option String)) : Option String :=
  if told failures = [] then none else some (summarySeparator.intercalate (told failures))

/-- A record counts some failed cycles and says why they failed. -/
structure Tallies (x : WorkflowState) (failures : List (Option String)) : Prop where
  cycleCount : x.cycleCount = failures.length
  failureSummary : x.failureSummary = joined failures

/-- Two records tally alike. -/
structure SameTally (x y : WorkflowState) : Prop where
  cycleCount : y.cycleCount = x.cycleCount
  failureSummary : y.failureSummary = x.failureSummary

instance : IsPreorder WorkflowState SameTally where
  refl _ := ⟨rfl, rfl⟩
  trans _ _ _ h h' :=
    ⟨h'.cycleCount.trans h.cycleCount, h'.failureSummary.trans h.failureSummary⟩

lemma Tallies.of_sameTally (h : x.Tallies failures) (hsame : x.SameTally y) :
    y.Tallies failures where
  cycleCount := hsame.cycleCount.trans h.cycleCount
  failureSummary := hsame.failureSummary.trans h.failureSummary

/-- An issue that has no record has not failed. -/
lemma tallies_nil (issueId : String) : ({ issueId } : WorkflowState).Tallies [] := ⟨rfl, rfl⟩

lemma told_append_singleton (failures : List (Option String)) (summary : Option String) :
    told (failures ++ [summary]) = told failures ++ told [summary] :=
  List.filterMap_append

lemma told_of_ne_empty {summary : String} (h : summary ≠ "") : told [some summary] = [summary] := by
  simp [told, Option.filter_some, h]

/-- Either nothing has been said, or what is joined is a text. -/
lemma joined_cases (failures : List (Option String)) :
    (told failures = [] ∧ joined failures = none) ∨
      (told failures ≠ [] ∧ joined failures = some (summarySeparator.intercalate (told failures)) ∧
        summarySeparator.intercalate (told failures) ≠ "") := by
  have hne (summary : String) (hmem : summary ∈ told failures) : summary ≠ "" := by
    obtain ⟨summary?, -, hfilter⟩ := List.mem_filterMap.1 hmem
    exact of_decide_eq_true (Option.filter_eq_some_iff.1 hfilter).2
  unfold joined
  cases htold : told failures with
  | nil => exact Or.inl ⟨rfl, rfl⟩
  | cons first rest =>
    have hfirst : first ≠ "" := hne first (by rw [htold]; exact List.mem_cons_self)
    refine Or.inr ⟨List.cons_ne_nil _ _, rfl, ?_⟩
    cases rest with
    | nil =>
      rw [String.intercalate_singleton]
      exact hfirst
    | cons second others => simp [String.intercalate_cons_cons, hfirst]

/-- Noting one more failure joins its summary to those before. -/
lemma failureSummary_noteSummary (h : x.failureSummary = joined failures)
    (summary : Option String) (now : Binary64) :
    (x.noteSummary summary now).failureSummary = joined (failures ++ [summary]) := by
  have hsilent (hnone : told [summary] = []) :
      joined (failures ++ [summary]) = joined failures := by
    unfold joined
    rw [told_append_singleton, hnone, List.append_nil]
  unfold noteSummary
  split
  · exact h.trans (hsilent rfl).symm
  · exact h.trans (hsilent rfl).symm
  · rename_i text hempty
    have htold : told (failures ++ [some text]) = told failures ++ [text] := by
      rw [told_append_singleton, told_of_ne_empty hempty]
    have hjoined : joined (failures ++ [some text]) =
        some (summarySeparator.intercalate (told failures ++ [text])) := by
      rw [joined, htold, if_neg (by simp)]
    rw [hjoined]
    unfold addSummary
    rw [h]
    rcases joined_cases failures with ⟨hnone, hjoined⟩ | ⟨hsome, hjoined, htext⟩
    · rw [hjoined, hnone]
      simp
    · rw [hjoined, String.intercalate_append_of_ne_nil hsome (List.cons_ne_nil _ _),
        String.intercalate_singleton]
      split
      · rename_i hnone
        cases hnone
      · rename_i hnone
        exact absurd (Option.some.inj hnone) htext
      · rename_i earlier _ hearlier
        rw [Option.some.inj hearlier]

/-- One more failure is tallied. -/
lemma Tallies.fail (h : x.Tallies failures) (summary : Option String) (now : Binary64) :
    (x.fail summary now).Tallies (failures ++ [summary]) where
  cycleCount := by
    simp [WorkflowState.fail, countFailure, h.cycleCount]
  failureSummary := failureSummary_noteSummary
    (x := { x with qaFailedAt := some now, updatedAt := now }) h.failureSummary summary now

end WorkflowState

open WorkflowState (Tallies SameTally)

/-! ## What is no failure -/

namespace Escalation

variable {e : Escalation ω}

/-- A failed cycle of another issue does not concern the record. -/
lemma IsInstalled.recordFailure_sameTally (he : e.IsInstalled shelf) {other : String}
    (hother : other ≠ issueId) (identifier : String) (summary : Option String)
    (cost : Option Binary64) :
    (e.recordFailure other identifier summary cost).Keeps (World.OnRecord SameTally issueId) :=
  he.recordFailure_onRecord (fun h => absurd h hother) (fun h => absurd h hother)
    (fun h => absurd h hother) identifier summary cost

/-- A success takes no failure back. -/
lemma recordSuccess_sameTally (e : Escalation ω) (other : String) :
    (e.recordSuccess other).Keeps (World.OnRecord SameTally issueId) :=
  World.onStoreNow_onRecord fun now => Store.clearQaFailed_onRecord now fun _ _ => ⟨rfl, rfl⟩

/-- No directive but an order to resume takes a failure back. -/
lemma apply_sameTally (e : Escalation ω) {other : String} {d : Directive}
    (hresume : other = issueId → d.kind ≠ .resume) :
    (e.apply other d).Keeps (World.OnRecord SameTally issueId) :=
  e.apply_onRecord hresume fun _ _ _ => ⟨rfl, rfl⟩

/-- What times out takes no failure back. -/
lemma processTimeouts_sameTally (e : Escalation ω) (now? : Option Binary64) :
    (e.processTimeouts now?).Keeps (World.OnRecord SameTally issueId) := by
  have hpending : (World.onStore (Store.pendingTouchpoints none) : Run (World ω) _).Keeps
      (World.OnRecord SameTally issueId) :=
    World.onStore_onRecord (Store.reading_keeps _ _)
  refine (Run.Keeps.of_eq fun _ => rfl).bind fun _ => hpending.bind fun _ => ?_
  refine proceed_keeps markAutoProceeded_onRecord (fun n _ _ => ?_) _
  exact World.onStoreNow_onRecord fun now => Store.setStrategy_onRecord now fun _ _ => ⟨rfl, rfl⟩

end Escalation

/-- No scan takes a failure back. -/
lemma Governor.IsInstalled.scan_sameTally {g : Governor ω} {b : StoreBacked ω}
    (installed : g.IsInstalled b shelf) : g.scan.Keeps (World.OnRecord SameTally issueId) := by
  refine installed.scan_keeps_of_moves (S := World.OnRecord SameTally issueId)
    (.of_imp fun _ _ h => h) (fun h => h) ?_ fun e _ => e.processTimeouts_sameTally none
  exact fun h => .of_sameRecords h.sameRecords

/-! ## A fresh start -/

/-- An order to resume leaves no record of its issue behind. -/
lemma Escalation.workflowOf_apply_of_resume (e : Escalation ω) {d : Directive}
    (hresume : d.kind = .resume) (hmissing : w.store.missing = []) :
    ∃ v, e.apply issueId d w = (.ok (), v) ∧ v.store.workflowOf issueId = { issueId } := by
  refine ⟨_, e.apply_of_resume issueId hresume hmissing, ?_⟩
  have hnone : (w.store.workflow.filter fun x => x.issueId != issueId).find?
      (fun x => x.issueId == issueId) = none := by
    rw [find?_filter_key WorkflowState.issueId, if_pos rfl]
  exact congrArg (·.getD ({ issueId } : WorkflowState)) hnone

namespace EventGovernor

variable {g : EventGovernor ω} {d : Directive}

/-- What is done for an event that brings a directive: the directive is followed, and the issue is
looked at if it is to go on. -/
lemma exists_react_of_directive? {event : Event} (h : g.directive? event = some d) :
    ∃ e : Escalation ω, g.react event = (e.apply event.issueId d >>= fun _ =>
      if d.kind = .resume then g.handle event.issue >>= fun _ => pure () else pure ()) := by
  unfold directive? at h
  split at h
  · rename_i commentId body userId _ isBot hdetail
    split at h
    · rename_i hsome
      obtain ⟨e, he⟩ := Option.isSome_iff_exists.1 hsome
      refine ⟨e, ?_⟩
      rw [react, hdetail]
      dsimp only
      rw [handleComment, h, he]
    · cases h
  · cases h

/-- An event that brings a directive is handled by following the directive first.  Nothing that is
done afterwards touches a record. -/
lemma exists_process_of_followed {b : StoreBacked ω} (installed : g.IsInstalled b shelf)
    {id : String} {e? : Option Event} (h : g.followed? e? w = some (issueId, d)) :
    ∃ (e : Escalation ω) (v : World ω) (rest : Run (World ω) Unit), w.OnlySightings v ∧
      g.process id e? w = (e.apply issueId d >>= fun _ => rest) v ∧
      rest.Keeps World.SameRecords := by
  unfold followed? at h
  obtain ⟨event, rfl, hevent⟩ := Option.bind_eq_some_iff.1 h
  split at hevent
  · rename_i hnew
    obtain ⟨d', hd, hpair⟩ := Option.map_eq_some_iff.1 hevent
    obtain ⟨rfl, rfl⟩ := Prod.mk.inj hpair
    have hrepeat : g.isRepeat event w = (.ok false, (g.isRepeat event w).2) :=
      Prod.ext (eq_ok_of_toOption hnew) rfl
    obtain ⟨e, hreact⟩ := exists_react_of_directive? hd
    have hhandle (issue : Issue) : (g.handle issue).Keeps World.SameRecords :=
      (Governor.handle_moves installed.quiet installed.collaborators issue).mono
        fun _ _ h => h.sameRecords
    have hlook : (if d'.kind = .resume then g.handle event.issue >>= fun _ => pure ()
        else pure () : Run (World ω) Unit).Keeps World.SameRecords :=
      .ite ((hhandle event.issue).bind fun _ => .pure ()) (.pure ())
    have hack : (g.bus.ack id : Run (World ω) Unit).Keeps World.SameRecords :=
      (g.bus.ack_keeps id).mono fun _ _ h => (World.SameFacts.of_onlyBus h).workflow
    refine ⟨e, _, _, g.isRepeat_onlySightings event w, ?_, hlook.bind fun _ => hack⟩
    rw [process_of_not_repeat hrepeat, hreact, bind_assoc]
  · cases hevent

end EventGovernor

/-! ## Runs -/

namespace Activity

variable {a : Activity ω shelf} {failures : List (Option String)}

/-- The summary of the failed cycle of an issue, if an activity is one. -/
def failed? (issueId : String) : Activity ω shelf → Option (Option String)
  | failure _ _ other _ summary _ => if other = issueId then some summary else none
  | _ => none

/-- Whether an order to resume an issue is followed in an activity. -/
def resumes (issueId : String) (a : Activity ω shelf) (w : World ω) : Bool :=
  (a.followed? w).any fun order => order.1 == issueId && order.2.kind = .resume

lemma resumes_iff : a.resumes issueId w = true ↔
    ∃ d, a.followed? w = some (issueId, d) ∧ d.kind = .resume := by
  unfold resumes
  constructor
  · intro h
    obtain ⟨⟨other, d⟩, hfollowed, horder⟩ := (Option.any_eq_true _ _).1 h
    obtain ⟨hissue, hresume⟩ := Bool.and_eq_true_iff.1 horder
    obtain rfl := eq_of_beq hissue
    exact ⟨d, hfollowed, of_decide_eq_true hresume⟩
  · rintro ⟨d, hfollowed, hresume⟩
    simp [hfollowed, hresume]

/-- The failed cycles of an issue since its last fresh start, as one more activity leaves them. -/
def collect (issueId : String) (failures : List (Option String)) (a : Activity ω shelf)
    (w : World ω) : List (Option String) :=
  match a.failed? issueId with
  | some summary => failures ++ [summary]
  | none => if a.resumes issueId w then [] else failures

/-- Nothing but a failed cycle of the issue or an order to resume it changes a tally. -/
lemma sameTally_after (hfailed : a.failed? issueId = none)
    (hresumes : ∀ d, a.followed? w = some (issueId, d) → d.kind ≠ .resume) :
    w.OnRecord SameTally issueId (a.after w) := by
  cases a with
  | scan g b installed => exact installed.scan_sameTally w
  | event g b installed id e? =>
    refine EventGovernor.process_onRecord installed fun e d hd => ?_
    exact e.apply_sameTally fun _ => hresumes d hd
  | failure e installed other identifier summary cost =>
    have hother : other ≠ issueId := by
      intro hissue
      rw [failed?, if_pos hissue] at hfailed
      cases hfailed
    exact installed.recordFailure_sameTally hother identifier summary cost w
  | success e other => exact e.recordSuccess_sameTally other w
  | directive e installed other d =>
    refine e.apply_sameTally (fun hissue => ?_) w
    subst hissue
    exact hresumes d rfl
  | timeouts e now? => exact e.processTimeouts_sameTally now? w
  | work op own => exact .of_sameRecords (op.leavesSteering_after own w).workflow
  | elsewhere f leaves => exact .of_sameRecords (leaves w).workflow

/-- Once an order to resume an issue has been followed, there is no record of it. -/
lemma workflowOf_after_of_resumes (hmissing : w.store.missing = []) {d : Directive}
    (hfollowed : a.followed? w = some (issueId, d)) (hresume : d.kind = .resume) :
    (a.after w).store.workflowOf issueId = { issueId } := by
  cases a with
  | directive e installed other order =>
    obtain ⟨rfl, rfl⟩ := Prod.mk.inj (Option.some.inj hfollowed)
    obtain ⟨v, happly, hrecord⟩ := e.workflowOf_apply_of_resume hresume hmissing
    rw [after, happly]
    exact hrecord
  | event g b installed id e? =>
    obtain ⟨e, v, rest, hnoted, hprocess, hrest⟩ :=
      EventGovernor.exists_process_of_followed installed hfollowed
    have hmissing' : v.store.missing = [] :=
      (World.LeavesSteering.of_onlySightings hnoted).missing.trans hmissing
    obtain ⟨u, happly, hrecord⟩ := e.workflowOf_apply_of_resume hresume hmissing'
    rw [after, hprocess, Run.bind_of_ok happly, (hrest u).workflowOf]
    exact hrecord
  | scan => cases hfollowed
  | failure => cases hfollowed
  | success => cases hfollowed
  | timeouts => cases hfollowed
  | work => cases hfollowed
  | elsewhere => cases hfollowed

/-- Every activity leaves a record that tallies what it leaves to be collected. -/
lemma tallies_after (hmissing : w.store.missing = [])
    (h : (w.store.workflowOf issueId).Tallies failures) :
    ((a.after w).store.workflowOf issueId).Tallies (a.collect issueId failures w) := by
  unfold collect
  cases hfailed : a.failed? issueId with
  | some summary =>
    cases a with
    | failure e installed other identifier told cost =>
      obtain ⟨rfl, rfl⟩ : other = issueId ∧ told = summary := by
        simpa [failed?] using hfailed
      have hrecord := installed.record_recordFailure (Store.has_of_missing hmissing _) other
        identifier told cost
      rw [after, hrecord]
      exact h.fail told w.clock
    | scan => cases hfailed
    | event => cases hfailed
    | success => cases hfailed
    | directive => cases hfailed
    | timeouts => cases hfailed
    | work => cases hfailed
    | elsewhere => cases hfailed
  | none =>
    dsimp only
    split
    · rename_i hresumes
      obtain ⟨d, hfollowed, hresume⟩ := resumes_iff.1 hresumes
      rw [workflowOf_after_of_resumes hmissing hfollowed hresume]
      exact WorkflowState.tallies_nil issueId
    · rename_i hresumes
      refine h.of_sameTally (sameTally_after hfailed fun d hfollowed hresume => ?_)
      exact hresumes (resumes_iff.2 ⟨d, hfollowed, hresume⟩)

end Activity

namespace World

variable {failures : List (Option String)}

/-- The failed cycles of an issue since its last fresh start, as some activities leave them.  Some
may have been collected before. -/
def failuresAfter (issueId : String) (failures : List (Option String)) (w : World ω) :
    List (Activity ω shelf) → List (Option String)
  | [] => failures
  | a :: as => (a.after w).failuresAfter issueId (a.collect issueId failures w) as

/-- At any point of a run the record of an issue tallies its failed cycles since its last fresh
start. -/
lemma tallies_afterAll {as : List (Activity ω shelf)} (hmissing : w.store.missing = [])
    (h : (w.store.workflowOf issueId).Tallies failures) :
    ((w.afterAll as).store.workflowOf issueId).Tallies (w.failuresAfter issueId failures as) := by
  induction as generalizing w failures with
  | nil => exact h
  | cons a as ih =>
    exact ih ((a.sameTables_after w).trans hmissing) (Activity.tallies_after hmissing h)

/-- As long as an issue neither fails nor is resumed, its tally stays. -/
lemma sameTally_afterAll {as : List (Activity ω shelf)}
    (hfailed : ∀ a ∈ as, a.failed? issueId = none)
    (horders : ∀ d ∈ w.orders issueId as, d.kind ≠ .resume) :
    w.OnRecord SameTally issueId (w.afterAll as) := by
  induction as generalizing w with
  | nil => exact refl w
  | cons a as ih =>
    obtain ⟨hfirst, hothers⟩ := List.forall_mem_cons.1 hfailed
    obtain ⟨hfollowed, hrest⟩ := forall_orders_cons.1 horders
    exact trans_of (OnRecord SameTally issueId) (Activity.sameTally_after hfirst hfollowed)
      (ih hothers hrest)

end World

/-! ## Every step -/

/-- The kind of touchpoint that is posted after a number of failed cycles. -/
def TouchpointKind.forCycles (count : Nat) : TouchpointKind :=
  if count ≤ 2 then .reviewRequest
  else if count = 3 then .decompositionProposal
  else .escalationAlert

/-- Every strategy that failed cycles call for has a touchpoint. -/
lemma Strategy.touchpointKind?_forCycles {count : Nat} (h : 0 < count) :
    (forCycles count).touchpointKind? = some (.forCycles count) := by
  unfold forCycles TouchpointKind.forCycles
  rw [if_neg (by omega)]
  by_cases htwo : count ≤ 2
  · rw [if_pos (by omega), if_pos htwo]
    rfl
  · rw [if_neg (by omega), if_neg htwo]
    by_cases hthree : count = 3
    · rw [if_pos (by omega), if_pos hthree]
      rfl
    · rw [if_neg (by omega), if_neg hthree]
      rfl

/-- An alert can always be written, and the other touchpoints can if their windows are finite. -/
lemma TouchpointSettings.writes_of_isFinite (t : TouchpointSettings)
    (hreview : t.reviewRequest.isFinite = true)
    (hproposal : t.decompositionProposal.isFinite = true) {kind : TouchpointKind}
    {window : Binary64} (hwindow : t.window? kind = some window) : kind.Writes window := by
  cases kind with
  | reviewRequest =>
    obtain rfl := Option.some.inj hwindow
    exact Or.inr hreview
  | decompositionProposal =>
    obtain rfl := Option.some.inj hwindow
    exact Or.inr hproposal
  | escalationAlert => exact Or.inl rfl
  | other name => cases hwindow

namespace Escalation

variable {e : Escalation ω}

/-- A failed cycle whose touchpoint can be written leaves one more row, and it is open, even if
posting it fails. -/
lemma IsInstalled.exists_touchpoint (he : e.IsInstalled shelf) (hmissing : w.store.missing = [])
    (hclock : w.clock.isNaN = false) (issueId identifier : String) (summary : Option String)
    (cost : Option Binary64) {kind : TouchpointKind} {window : Binary64}
    (hkind : (Strategy.forCycles
      ((w.store.workflowOf issueId).cycleCount + 1)).touchpointKind? = some kind)
    (hwindow : e.windows.window? kind = some window) (hwrites : kind.Writes window) :
    ∃ t : Touchpoint, (e.recordFailure issueId identifier summary cost w).2.store.touchpoints =
        w.store.touchpoints ++ [t] ∧ t.isOpen = true ∧ t.issueId = issueId ∧ t.kind = kind := by
  rcases recordFailure_cases (Store.has_of_missing hmissing _)
      (OverrideShelf.isThere_of_missing hmissing) hclock issueId identifier summary cost hkind
      hwindow with ⟨-, n, id, hasks, hissue, hresult, hrows⟩ | ⟨hnot, -⟩
  · have hsilent : e.silent.recordFailure issueId identifier summary cost w =
        (.ok (some { n with id := some (id : Int) }),
          (e.silent.recordFailure issueId identifier summary cost w).2) :=
      Prod.ext hresult rfl
    have hpost (n? : Option Notification) :
        (e.post issueId n? >>= fun _ => pure n? : Run (World ω) _).Keeps World.OnlyOutside := by
      refine Run.Keeps.bind ?_ fun _ => .pure _
      unfold post
      split
      · rename_i n post hpost
        exact he.postComment post hpost issueId n.body
      · exact .pure ()
    refine ⟨.ofNotification id n, ?_, rfl, hissue, hasks.kind⟩
    rw [recordFailure_eq_post, Run.bind_of_ok hsilent,
      (World.OnlyLapsed.of_onlyOutside (hpost _ _)).touchpoints]
    exact hrows
  · exact absurd hwrites hnot

/-- What the last of some failed cycles of an issue brings about: the failures are on record with
the strategy that their number calls for and the time of the last one, one open touchpoint has been
added, and from the fourth failure on the issue is held. -/
structure Climbed (shelf : OverrideShelf) (issueId : String) (failures : List (Option String))
    (w w' : World ω) : Prop where
  tallies : (w'.store.workflowOf issueId).Tallies failures
  strategy : (w'.store.workflowOf issueId).strategy = .forCycles failures.length
  qaFailedAt : (w'.store.workflowOf issueId).qaFailedAt = some w.clock
  touchpoint : ∃ t : Touchpoint, w'.store.touchpoints = w.store.touchpoints ++ [t] ∧
    t.isOpen = true ∧ t.issueId = issueId ∧ t.kind = .forCycles failures.length
  held : 4 ≤ failures.length → ∀ b : StoreBacked ω, b.shelf = shelf →
    b.isHeld issueId w' = (.ok true, w')

/-- The last of some failed cycles brings about what their number calls for. -/
lemma IsInstalled.climbed_recordFailure (he : e.IsInstalled shelf)
    (hmissing : w.store.missing = []) (hclock : w.clock.isNaN = false)
    (hreview : e.windows.reviewRequest.isFinite = true)
    (hproposal : e.windows.decompositionProposal.isFinite = true)
    {failures : List (Option String)} (h : (w.store.workflowOf issueId).Tallies failures)
    (identifier : String) (summary : Option String) (cost : Option Binary64) :
    Climbed shelf issueId (failures ++ [summary]) w
      (e.recordFailure issueId identifier summary cost w).2 := by
  have hrecord := he.record_recordFailure (Store.has_of_missing hmissing _) issueId identifier
    summary cost
  have hlength : ((failures ++ [summary]).length : Int) =
      (w.store.workflowOf issueId).cycleCount + 1 := by
    rw [h.cycleCount]
    simp
  have htallies := h.fail summary w.clock
  rw [← hrecord] at htallies
  refine ⟨htallies, ?_, ?_, ?_, ?_⟩
  · rw [(he.stage_recordFailure (Store.has_of_missing hmissing _) issueId identifier summary
      cost).2, hlength]
  · rw [hrecord]
    simp [WorkflowState.fail, WorkflowState.countFailure, WorkflowState.noteFailure]
  · have hsome : 0 < (failures ++ [summary]).length := by simp
    have hkind := Strategy.touchpointKind?_forCycles hsome
    rw [hlength] at hkind
    obtain ⟨window, hwindow⟩ := e.windows.exists_window hkind
    exact he.exists_touchpoint hmissing hclock issueId identifier summary cost hkind hwindow
      (e.windows.writes_of_isFinite hreview hproposal hwindow)
  · intro hfour b hshelf
    have hthere : shelf.IsThere w := OverrideShelf.isThere_of_missing hmissing
    have hcount := htallies.cycleCount
    refine StoreBacked.isHeld_of_parks hshelf
      (hthere.of_sameTables (he.recordFailure_sameTables issueId identifier summary cost w)) ?_
    refine he.parks_recordFailure hthere rfl ?_ ?_
    · rw [hcount, hlength]
      exact Int.lt_succ _
    · rw [hcount]
      exact Int.ofNat_le.2 hfour

/-- **The staircase of escalation.**  Let an issue without a record go through any run.  If it has
failed some times since it was last resumed, and fails once more, then the number of failures alone
decides the strategy, the touchpoint and the hold that follow; and as long as it neither fails again
nor is resumed, its count and its summary stay. -/
theorem climbed_afterAll (he : e.IsInstalled shelf)
    (hreview : e.windows.reviewRequest.isFinite = true)
    (hproposal : e.windows.decompositionProposal.isFinite = true)
    (hmissing : w.store.missing = []) (hnone : ∀ x ∈ w.store.workflow, x.issueId ≠ issueId)
    {as : List (Activity ω shelf)} (hclock : (w.afterAll as).clock.isNaN = false)
    (identifier : String) (summary : Option String) (cost : Option Binary64)
    (hw' : (e.recordFailure issueId identifier summary cost (w.afterAll as)).2 = w') :
    Climbed shelf issueId (w.failuresAfter issueId [] as ++ [summary]) (w.afterAll as) w' ∧
      ∀ later : List (Activity ω shelf), (∀ a ∈ later, a.failed? issueId = none) →
        (∀ d ∈ w'.orders issueId later, d.kind ≠ .resume) →
        ((w'.afterAll later).store.workflowOf issueId).Tallies
          (w.failuresAfter issueId [] as ++ [summary]) := by
  have hempty : w.store.workflowOf issueId = { issueId } := by
    have hfind : w.store.workflow.find? (fun x => x.issueId == issueId) = none := by
      simpa [List.find?_eq_none] using hnone
    rw [Store.workflowOf, hfind]
    rfl
  have hstart : (w.store.workflowOf issueId).Tallies [] := by
    rw [hempty]
    exact WorkflowState.tallies_nil issueId
  have hmissing' : (w.afterAll as).store.missing = [] :=
    (World.sameTables_afterAll w as).trans hmissing
  have hclimbed := he.climbed_recordFailure hmissing' hclock hreview hproposal
    (World.tallies_afterAll hmissing hstart) identifier summary cost
  rw [hw'] at hclimbed
  refine ⟨hclimbed, fun later hfailed horders => ?_⟩
  exact hclimbed.tallies.of_sameTally (World.sameTally_afterAll hfailed horders)

/-- A cycle of an issue fails for a reason, and nobody hears of it. -/
def failingUnheard (issueId : String) (summary : Option String) : Activity Unit .shared :=
  .failure unheard isInstalled_unheard issueId issueId summary none

/-- A human orders work on an issue to go on. -/
def resuming (issueId : String) : Activity Unit .shared :=
  .directive standard isInstalled_standard issueId { kind := .resume, timestamp := 0 }

/-- What may happen to an issue before it fails for the fourth time since it was last resumed. -/
def upAndDown : List (Activity Unit .shared) := [
  World.failing "a", resuming "a", failingUnheard "a" (some "no build"), .poll "a",
  World.breakingUp "a", failingUnheard "b" (some "no tests"), failingUnheard "a" (some ""),
  .success standard "a", failingUnheard "a" (some "no tests")]

theorem climbed_afterAll_upAndDown :
    ∃ w', (unheard.recordFailure "a" "a" none none (World.fresh.afterAll upAndDown)).2 = w' ∧
      World.fresh.failuresAfter "a" [] upAndDown = [some "no build", some "", some "no tests"] ∧
      Climbed .shared "a" [some "no build", some "", some "no tests", none]
        (World.fresh.afterAll upAndDown) w' ∧
      ((w'.afterAll [.poll "a", World.breakingUp "a", World.lookingThrough 20000]).store.workflowOf
        "a").Tallies [some "no build", some "", some "no tests", none] := by
  have hcollected : World.fresh.failuresAfter "a" [] upAndDown =
      [some "no build", some "", some "no tests"] := by
    decide +kernel
  have hnone : ∀ x ∈ (World.fresh : World Unit).store.workflow, x.issueId ≠ "a" :=
    List.forall_mem_nil _
  have hclock : (World.fresh.afterAll upAndDown).clock.isNaN = false := by decide +kernel
  refine ⟨_, rfl, hcollected, ?_⟩
  have hclimbed := climbed_afterAll isInstalled_unheard (by decide +kernel) (by decide +kernel) rfl
    hnone hclock "a" none none rfl
  rw [hcollected] at hclimbed
  refine ⟨hclimbed.1, hclimbed.2 _ ?_ ?_⟩
  · simp [Activity.poll, World.breakingUp, World.lookingThrough, Activity.failed?]
  · decide +kernel

end Escalation

end IssueDispatch
