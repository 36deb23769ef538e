import IssueDispatch.Proofs.Governor.Keeping
import IssueDispatch.Proofs.Governor.Moves
import IssueDispatch.Proofs.Standard

/-!
# Only cleared issues are dispatched

Every step of a governor that answers from the shared store is an episode: whenever it creates a
session, the issue has been shown to it in this step and the session is what it has decided upon
that snapshot; and the issue is idle and cleared at that very moment.  What has been decided may be
carried out (`Gathered.allows`).  A scan evaluates all issues of a project before it dispatches the
first one; that a decision may still be carried out later is `Governor.Warrants.of_path`, and that
the issue is still idle is what the store checks when it records a session.
-/

namespace IssueDispatch

variable {ω : Type}

namespace Governor

/-- What a governor is told to do at the end of a scan and upon a contained fault touches nothing
but the state outside. -/
structure IsDiscreet (g : Governor ω) : Prop where
  onScanComplete : ∀ results, (g.onScanComplete results).Keeps World.OnlyOutside
  onError : ∀ fault, (g.onError fault).Keeps World.OnlyOutside

/-- A decision that may be carried out. -/
def Allows (g : Governor ω) (b : StoreBacked ω) (issue : Issue) (d : Decision) (w : World ω) :
    Prop :=
  ∀ action, d.action? = some action → g.Clears b issue action w

/-- A decision has been made in a step, and may be carried out at the stage that is reached. -/
structure Warrants (g : Governor ω) (b : StoreBacked ω) (s : Stage ω) (issue : Issue)
    (d : Decision) : Prop where
  decided : (issue, d) ∈ s.decided
  allows : g.Allows b issue d s.world

variable {g : Governor ω} {b : StoreBacked ω} {issue : Issue} {d : Decision} {projects : List Value}
  {s s' : Stage ω} {w w' : World ω}

/-! ## One issue -/

/-- A governor that answers from the store asks its questions quietly. -/
lemma asksQuietly (hquiet : b.tracker.IsQuiet)
    (hcollaborators : g.collaborators = b.collaborators) :
    g.collaborators.QuestionsKeep World.OnlyLapsed := by
  rw [hcollaborators]
  exact StoreBacked.questionsKeep_collaborators hquiet

lemma Allows.of_path (h : g.Allows b issue d s.world) (hpath : g.Path b projects s s') :
    g.Allows b issue d s'.world := fun action haction => (h action haction).of_path hpath

/-- A decision that may be carried out may be so later on in the same step. -/
lemma Warrants.of_path (h : g.Warrants b s issue d) (hpath : g.Path b projects s s') :
    g.Warrants b s' issue d :=
  ⟨hpath.decided_subset h.decided, h.allows.of_path hpath⟩

/-- What is decided from the facts about an issue may be carried out. -/
lemma Gathered.allows (hcollaborators : g.collaborators = b.collaborators) {ctx : Context}
    {priority : Option OverridePriority} (hgathered : g.Gathered issue.id w ctx priority)
    (hdecide : issue.decide g.settings ctx = .ok d) : g.Allows b issue d w := by
  intro action haction
  obtain ⟨hguard, hawaiting⟩ := of_decide_eq_ok hdecide haction
  obtain ⟨hheld, -, hcooldown, hterminal, hstarted⟩ := guard?_eq_none_iff.1 hguard
  have hasked := hgathered.isHeld
  rw [hcollaborators, hheld] at hasked
  have hcool := hgathered.isWithinCooldown
  rw [hcollaborators, hcooldown] at hcool
  refine ⟨fun o => StoreBacked.not_orders_of_answers hasked, fun x hx failedAt hfailed => ?_,
    hterminal, hstarted, ?_⟩
  · have hjust := StoreBacked.didJustFail_of_answers hcool hx
    rw [WorkflowState.didJustFail, hfailed] at hjust
    dsimp only at hjust
    split at hjust
    · rename_i cooldown hnumber
      exact ⟨cooldown, hnumber, Except.ok.inj hjust⟩
    · cases hjust
  · intro hsome hwaits t ht hissue hopen window hwindow hfinite
    obtain ⟨e, he⟩ := Option.isSome_iff_exists.1 hsome
    have hresponse := hgathered.awaitingResponse
    have hnone : ctx.awaitingResponse = false := by
      refine hawaiting ?_
      rcases hwaits with rfl | rfl <;> rfl
    rw [hnone] at hresponse
    exact hasTimedOut_of_answers he hresponse ht hissue hopen hwindow hfinite

/-- An issue is evaluated to a decision that may be carried out. -/
lemma allows_of_evaluate (hquiet : b.tracker.IsQuiet)
    (hcollaborators : g.collaborators = b.collaborators) {priority : Option OverridePriority}
    (h : g.evaluate issue w = (.ok (d, priority), w')) : g.Allows b issue d w := by
  have hasked := asksQuietly hquiet hcollaborators
  obtain ⟨ctx, hgathered, hdecide⟩ := exists_gathered_of_evaluate hasked h
  exact hgathered.allows hcollaborators hdecide

/-- Evaluating an issue that has been shown is a move, and leads to a decision that may be carried
out. -/
lemma evaluate_move (hquiet : b.tracker.IsQuiet)
    (hcollaborators : g.collaborators = b.collaborators) (hseen : issue ∈ s.seen)
    {priority : Option OverridePriority}
    (h : g.evaluate issue s.world = (.ok (d, priority), w)) :
    ∃ s', s'.world = w ∧ g.Move b projects s s' ∧ g.Warrants b s' issue d := by
  have hasked := asksQuietly hquiet hcollaborators
  obtain ⟨ctx, hgather, hdecide⟩ := exists_of_evaluate h
  have hlapsed := (gather_keeps (hasked.answers issue.id)).of_apply_eq hgather
  have hmove : g.Move b projects s _ := .decide hseen hgather hdecide (.of_onlyLapsed hlapsed)
  have hallows : g.Allows b issue d s.world := allows_of_evaluate hquiet hcollaborators h
  exact ⟨_, rfl, hmove, List.mem_append_right _ (List.mem_singleton_self _),
    hallows.of_path (.single hmove)⟩

/-- Carrying out a decision that has been made is a path of moves, on which nothing more is learnt
or decided. -/
lemma dispatch_path (hquiet : b.tracker.IsQuiet)
    (hcollaborators : g.collaborators = b.collaborators) (h : g.Warrants b s issue d) :
    g.Path b projects s { s with world := (g.dispatch issue d s.world).2 } := by
  cases d with
  | skip reason => exact .refl
  | dispatch action workType reason =>
    have hdispatch : g.dispatch issue (.dispatch action workType reason) =
        b.dispatch issue workType.name := by
      rw [dispatch, hcollaborators]
      rfl
    rw [hdispatch]
    obtain ⟨v, hlapsed, ⟨e, hfails⟩ | ⟨sessionId, prompt, hplace⟩⟩ :=
      b.dispatch_cases issue workType.name hquiet s.world
    · rw [hfails]
      exact .single (.quiet (.of_onlyLapsed hlapsed))
    have hpath : g.Path b projects s { s with world := v } :=
      .single (.quiet (.of_onlyLapsed hlapsed))
    have hclears : g.Clears b issue action v := (h.allows action rfl).of_path hpath
    have hrank : OverridePriority.rank ((b.shelf.inForce s.world issue.id).bind
        Override.priority?) = b.rankInForce v issue.id := by
      rw [StoreBacked.rankInForce, hlapsed.inForce]
    rw [hplace, hrank, ← hlapsed.clock]
    rcases StoreBacked.place_cases issue workType.name sessionId (b.rankInForce v issue.id) prompt
      v.clock (OverridePriority.isStorable_rank _) v with
      ⟨e, hplace⟩ | ⟨-, hidle, -, -, -, hplace⟩ | ⟨hidle, -, e, error, hplace⟩
    · rw [hplace]
      exact hpath
    · rw [hplace]
      exact hpath.tail (.create h.decided hclears hidle (.queued sessionId prompt))
    · rw [hplace]
      exact hpath.tail (.create h.decided hclears hidle (.unqueued sessionId error))

/-- Handling an issue that has been shown is a path of moves. -/
lemma handle_moves (hquiet : b.tracker.IsQuiet)
    (hcollaborators : g.collaborators = b.collaborators) (issue : Issue) :
    (g.handle issue).Keeps (g.Moves b [] [issue]) := by
  have hasked := asksQuietly hquiet hcollaborators
  intro w seen decided hshown
  rw [handle]
  have hkeeps := evaluate_keeps (hasked.answers issue.id) w
  rcases hevaluate : g.evaluate issue w with ⟨e | ⟨d, priority⟩, v⟩ <;> rw [hevaluate] at hkeeps
  · rw [Run.bind_of_error hevaluate]
    exact ⟨seen, decided, .single (.quiet (.of_onlyLapsed hkeeps))⟩
  · obtain ⟨s, rfl, hmove, hwarrants⟩ := evaluate_move (s := ⟨w, seen, decided⟩) hquiet
      hcollaborators (hshown (List.mem_singleton_self _)) hevaluate
    have hpath := (Relation.ReflTransGen.single hmove).trans
      (dispatch_path hquiet hcollaborators hwarrants)
    rw [Run.bind_of_ok hevaluate]
    dsimp only
    rw [Run.bind_of_ok (Run.attempt_apply _ s.world)]
    refine ⟨s.seen, s.decided, ?_⟩
    generalize (g.dispatch issue d s.world).1 = result
    split
    · exact hpath
    · exact hpath
    · exact hpath

/-! ## All issues of a project -/

/-- Evaluating issues that have been shown is a path of moves.  Those that call for an action may be
dispatched as has been decided. -/
lemma evaluateAll_path (hquiet : b.tracker.IsQuiet)
    (hcollaborators : g.collaborators = b.collaborators) {issues : List Issue} (r : ScanResult)
    (hseen : issues ⊆ s.seen) :
    ∃ as r' s', g.evaluateAll issues r s.world = (.ok (as, r'), s'.world) ∧ g.Path b projects s s' ∧
      ∀ a ∈ as, g.Warrants b s' a.issue a.decision := by
  have hasked := asksQuietly hquiet hcollaborators
  induction issues generalizing r s with
  | nil => exact ⟨[], r, s, rfl, .refl, List.forall_mem_nil _⟩
  | cons issue rest ih =>
    obtain ⟨hissue, hrest⟩ := List.cons_subset.1 hseen
    have hkeeps := evaluate_keeps (hasked.answers issue.id) s.world
    rw [evaluateAll, Run.bind_of_ok (Run.attempt_apply _ s.world)]
    rcases hevaluate : g.evaluate issue s.world with ⟨e | ⟨d, priority⟩, v⟩
    · rw [hevaluate] at hkeeps
      have hquietly : g.Path b projects s { s with world := v } :=
        .single (.quiet (.of_onlyLapsed hkeeps))
      obtain ⟨as, r', s', hall, hpath, has⟩ := ih (s := { s with world := v })
        (r.fail issue.identifier e) hrest
      exact ⟨as, r', s', hall, hquietly.trans hpath, has⟩
    · obtain ⟨u, rfl, hmove, hwarrants⟩ := evaluate_move hquiet hcollaborators hissue hevaluate
      have hrest' : rest ⊆ u.seen := List.Subset.trans hrest hmove.seen_subset
      cases d with
      | skip reason =>
        obtain ⟨as, r', s', hall, hpath, has⟩ := ih (r.skip issue.identifier reason) hrest'
        exact ⟨as, r', s', hall, hpath.head hmove, has⟩
      | dispatch action workType reason =>
        obtain ⟨as, r', s', hall, hpath, has⟩ := ih r hrest'
        refine ⟨⟨issue, .dispatch action workType reason, priority⟩ :: as, r', s', ?_,
          hpath.head hmove, List.forall_mem_cons.2 ⟨hwarrants.of_path hpath, has⟩⟩
        exact Run.bind_of_ok hall

/-- Dispatching issues as has been decided is a path of moves, even if some of them stand more than
once in the list. -/
lemma dispatchAll_path (hquiet : b.tracker.IsQuiet)
    (hcollaborators : g.collaborators = b.collaborators) {as : List Actionable} (r : ScanResult)
    (hwarrants : ∀ a ∈ as, g.Warrants b s a.issue a.decision) :
    g.Path b projects s { s with world := (g.dispatchAll as r s.world).2 } := by
  induction as generalizing r s with
  | nil => exact .refl
  | cons a rest ih =>
    obtain ⟨ha, hrest⟩ := List.forall_mem_cons.1 hwarrants
    rw [dispatchAll]
    split
    · exact ih _ hrest
    · have hfirst : g.Path b projects s _ := dispatch_path hquiet hcollaborators ha
      rw [Run.bind_of_ok (Run.attempt_apply _ s.world)]
      have hrest' (r : ScanResult) : g.Path b projects s { s with
          world := (g.dispatchAll rest r (g.dispatch a.issue a.decision s.world).2).2 } :=
        hfirst.trans (ih r fun x hx => (hrest x hx).of_path hfirst)
      generalize (g.dispatch a.issue a.decision s.world).1 = result
      split
      · exact hrest' _
      · exact hrest' _
      · exact hrest' _

/-- Scanning a project is a path of moves. -/
lemma scanProject_moves (hquiet : b.tracker.IsQuiet)
    (hcollaborators : g.collaborators = b.collaborators) {project : Value}
    (hproject : project ∈ projects) : (g.scanProject project).Keeps (g.Moves b projects []) := by
  have hasked := asksQuietly hquiet hcollaborators
  intro w seen decided _
  have hlapsed := hasked.listIssues project w
  rw [scanProject, Run.bind_of_ok (Run.attempt_apply _ w)]
  rcases hlisted : g.collaborators.listIssues project w with ⟨fault | - | issues, v⟩ <;>
    rw [hlisted] at hlapsed
  · exact ⟨seen, decided, .single (.quiet (.of_onlyLapsed hlapsed))⟩
  · exact ⟨seen, decided, .single (.quiet (.of_onlyLapsed hlapsed))⟩
  · have hmove := Move.list (b := b) (s := ⟨w, seen, decided⟩) hproject hlisted
      (.of_onlyLapsed hlapsed)
    obtain ⟨as, r, s, hall, hpath, has⟩ := evaluateAll_path (s := ⟨v, seen ++ issues, decided⟩)
      hquiet hcollaborators { project := project, scannedIssues := issues.length }
      (List.subset_append_right seen issues)
    refine ⟨s.seen, s.decided, (hpath.head hmove).trans ?_⟩
    dsimp only
    rw [Run.bind_of_ok hall]
    exact dispatchAll_path hquiet hcollaborators r fun a ha => has a (List.mem_mergeSort.1 ha)

/-! ## Scans -/

/-- What touches nothing but the state outside is a quiet move. -/
lemma IsDiscreet.onError_moves (hdiscreet : g.IsDiscreet) (b : StoreBacked ω) (fault : Fault) :
    (g.onError fault).Keeps (g.Moves b projects []) :=
  (hdiscreet.onError fault).mono fun _ _ h => .of_onlyLapsed (.of_onlyOutside h)

lemma IsDiscreet.onScanComplete_moves (hdiscreet : g.IsDiscreet) (b : StoreBacked ω)
    (results : List ScanResult) : (g.onScanComplete results).Keeps (g.Moves b projects []) :=
  (hdiscreet.onScanComplete results).mono fun _ _ h => .of_onlyLapsed (.of_onlyOutside h)

/-- Noting that a scan is under way is a quiet move. -/
lemma moves_scanning (g : Governor ω) (b : StoreBacked ω) (w : World ω)
    (scanning : List GovernorId) : g.Moves b projects [] w { w with scanning } :=
  .quiet ⟨rfl, rfl, rfl, rfl, rfl, rfl, rfl, fun shelf _ => by cases shelf <;> rfl⟩

end Governor

/-! ## Events -/

namespace EventGovernor

variable {g : EventGovernor ω} {b : StoreBacked ω}

end EventGovernor

/-! ## The result -/

namespace Governor

/-- The default governor tells nobody anything. -/
lemma isDiscreet_standard (b : StoreBacked ω) : (standard b).IsDiscreet where
  onScanComplete _ := .pure ()
  onError _ := .pure ()

end Governor

end IssueDispatch
