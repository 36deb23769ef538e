import IssueDispatch.Proofs.Governor.Moves
import IssueDispatch.Proofs.Governor.Progress
import IssueDispatch.Proofs.Governor.Tracing
import IssueDispatch.Proofs.Queue.Foresight
import IssueDispatch.Proofs.Standard
import Mathlib.Data.List.Nodup
import Mathlib.Data.List.Perm.Basic

/-!
# What becomes of the listed issues

A scan of a project dispatches an issue, skips it for a reason, or fails to deal with it.  The
record of a pass says which: each evaluation has one of three outcomes, and so has each dispatch
that is tried, while the candidates that are not tried are left out.  If no two issues share an
identifier, then no reason takes the place of another one, so the result of the scan accounts for
every listed issue once.

With collaborators that answer from the store, the accounts agree with the tables: each issue that
was dispatched has one new pending session and one new entry in the queue, at the rank of the
override in force, and a dispatch that failed half-way has left a failed session behind and nothing
else.
-/

namespace IssueDispatch

variable {ω : Type}

/-! ## Three outcomes -/

/-- If each entry of a list has one of three outcomes, then the outcomes together are a
rearrangement of the list. -/
lemma perm_of_three_outcomes {α β γ δ : Type} {f : α → Option β} {f' : α → Option γ}
    {f'' : α → Option δ} {key : α → String} {k : β → String} {k' : γ → String} {k'' : δ → String}
    (hone : ∀ a, (f a).toList.map k ++ (f' a).toList.map k' ++ (f'' a).toList.map k'' = [key a])
    (as : List α) :
    ((as.filterMap f).map k ++ (as.filterMap f').map k' ++ (as.filterMap f'').map k'').Perm
      (as.map key) := by
  refine List.perm_iff_count.2 fun name => ?_
  induction as with
  | nil => rfl
  | cons a as ih =>
    have hfirst := congrArg (List.count name) (hone a)
    simp only [filterMap_cons_toList, List.map_append, List.map_cons, List.count_append,
      List.count_cons, List.count_nil] at hfirst ih ⊢
    omega

/-- The identifier of a candidate. -/
def Candidate.name (a : Candidate) : String := a.issue.identifier

/-- The identifier of an issue that failed. -/
def Failure.name (f : Failure) : String := f.issue.identifier

/-- An issue that has been evaluated calls for an action, is skipped, or could not be evaluated. -/
lemma Judged.perm_outcomes (js : List Judged) :
    ((js.filterMap candidate?).map Candidate.name ++ (js.filterMap skip?).map Prod.fst ++
      (js.filterMap failure?).map Failure.name).Perm (js.map fun j => j.issue.identifier) := by
  refine perm_of_three_outcomes (fun j => ?_) js
  obtain ⟨issue, position, fault | ⟨_ | _, priority⟩⟩ := j <;> rfl

/-- An issue whose dispatch was tried is dispatched, found busy, or has failed. -/
lemma Attempt.perm_outcomes (ts : List Attempt) :
    ((ts.filterMap dispatched?).map Candidate.name ++ (ts.filterMap skip?).map Prod.fst ++
      (ts.filterMap failure?).map Failure.name).Perm (ts.map fun t => t.candidate.name) := by
  refine perm_of_three_outcomes (fun t => ?_) ts
  obtain ⟨a, fault | _⟩ := t
  · cases fault <;> rfl
  · rfl

namespace ScanResult

variable {entries known : List (String × SkipReason)}

lemma addReason_of_notMem {identifier : String} {reason : SkipReason}
    (h : identifier ∉ known.map Prod.fst) :
    addReason identifier reason known = known ++ [(identifier, reason)] := by
  induction known with
  | nil => rfl
  | cons entry rest ih =>
    rw [List.map_cons, List.mem_cons, not_or] at h
    have hother : (entry.1 == identifier) = false := beq_false_of_ne (Ne.symm h.1)
    rw [addReason, hother, ih h.2]
    rfl

/-- Reasons that are noted for different identifiers stand side by side. -/
lemma addReasons_of_nodup (h : ((known ++ entries).map Prod.fst).Nodup) :
    addReasons entries known = known ++ entries := by
  induction entries generalizing known with
  | nil => rw [List.append_nil]; rfl
  | cons e rest ih =>
    have hnew : e.1 ∉ known.map Prod.fst := by
      rw [List.map_append, List.map_cons, List.nodup_append] at h
      intro hmem
      exact h.2.2 e.1 hmem e.1 List.mem_cons_self rfl
    change addReasons rest (addReason e.1 e.2 known) = _
    rw [addReason_of_notMem hnew, ih (by simpa using h), List.append_assoc]
    rfl

end ScanResult

namespace Governor

variable {g : Governor ω} {issues : List Issue} {p : Pass} {w u : World ω}

/-- Every listed issue is dispatched, skipped or has failed, and it is noted no more than once. -/
lemma Passes.perm_outcomes (h : g.Passes issues w p u) :
    (p.dispatched.map Candidate.name ++ p.skips.map Prod.fst ++ p.failures.map Failure.name).Perm
      (issues.map Issue.identifier) := by
  have hlisted : p.judged.map (fun j => j.issue.identifier) = issues.map Issue.identifier := by
    rw [← h.map_issue, List.map_map]
    rfl
  have hjudged := Judged.perm_outcomes p.judged
  have hattempts := Attempt.perm_outcomes p.attempts
  have hcandidates : ((p.attempts.map fun t => t.candidate.name) ++
      p.leftOut.map Candidate.name).Perm (p.candidates.map Candidate.name) := by
    have hperm := h.fills.perm.map Candidate.name
    rwa [List.map_append, List.map_map] at hperm
  have hlimit : p.leftOut.map (Prod.fst ∘ Candidate.limitSkip) = p.leftOut.map Candidate.name :=
    rfl
  rw [hlisted] at hjudged
  -- The candidates are replaced by their own outcomes, which is counted name by name.
  refine List.perm_iff_count.2 fun name => ?_
  have hj := hjudged.count_eq name
  have ha := hattempts.count_eq name
  have hc := hcandidates.count_eq name
  simp only [Pass.dispatched, Pass.skips, Pass.failures, Pass.candidates, List.map_append,
    List.map_map, hlimit, List.count_append] at hj ha hc ⊢
  omega

/-- If no two issues share an identifier, the reasons are noted side by side. -/
lemma Passes.skippedReasons_eq (h : g.Passes issues w p u)
    (hdistinct : (issues.map Issue.identifier).Nodup) (project : Value) :
    (p.result project).skippedReasons = p.skips := by
  have hall := h.perm_outcomes.nodup_iff.2 hdistinct
  have hskips : (p.skips.map Prod.fst).Nodup :=
    (List.nodup_append.1 (List.nodup_append.1 hall).1).2.1
  have hnoted : ScanResult.addReasons p.skips [] = [] ++ p.skips :=
    ScanResult.addReasons_of_nodup hskips
  exact hnoted

end Governor

/-! ## What is left in the tables -/

/-- A session has been recorded and queued for each of some placements, the clock being as it was,
and whatever else was recorded has failed. -/
structure World.HasPlaced (w : World ω) (ps : List Placement) (w' : World ω) : Prop where
  clock : w'.clock = w.clock
  claims : w'.store.claims = w.store.claims
  queue : w'.store.queue = w.store.queue ++ ps.map fun p => p.work w.clock
  sessions : ∃ added, w'.store.sessions = w.store.sessions ++ added ∧
    added.filter (·.status == .pending) = (ps.map fun p => p.session w.clock) ∧
    ∀ x ∈ added, x.status = .pending ∨ x.status = .failed

/-- What has been placed is ranked by the overrides in force, and these and the tables are as they
were.  A queue that was as insertions build it is still so. -/
structure World.HasRanked (b : StoreBacked ω) (w : World ω) (ps : List Placement) (w' : World ω) :
    Prop extends w.HasPlaced ps w' where
  missing : w'.store.missing = w.store.missing
  inForce : ∀ issueId, b.shelf.inForce w' issueId = b.shelf.inForce w issueId
  ranks : ∀ p ∈ ps, p.rank = b.rankInForce w p.issue.id
  built : w.store.KeepsBuiltQueue w'.store

namespace World.HasPlaced

variable {w v u : World ω} {ps qs : List Placement}

/-- What leaves work alone places nothing. -/
lemma of_sameWork (h : World.SameWork w v) : w.HasPlaced [] v where
  clock := h.clock
  claims := h.store.claims
  queue := by rw [h.store.queue]; simp
  sessions := ⟨[], by rw [h.store.sessions]; simp, rfl, by simp⟩

lemma of_onlyLapsed (h : World.OnlyLapsed w v) : w.HasPlaced [] v := .of_sameWork (.of_onlyLapsed h)

protected lemma trans (h : w.HasPlaced ps v) (h' : v.HasPlaced qs u) :
    w.HasPlaced (ps ++ qs) u where
  clock := h'.clock.trans h.clock
  claims := h'.claims.trans h.claims
  queue := by rw [h'.queue, h.queue, h.clock, List.map_append, List.append_assoc]
  sessions := by
    obtain ⟨added, hadded, hpending, hstatus⟩ := h.sessions
    obtain ⟨added', hadded', hpending', hstatus'⟩ := h'.sessions
    refine ⟨added ++ added', ?_, ?_, fun x hx => ?_⟩
    · rw [hadded', hadded, List.append_assoc]
    · rw [List.filter_append, hpending, hpending', h.clock, List.map_append]
    · exact (List.mem_append.1 hx).elim (hstatus x) (hstatus' x)

/-- A placement records a pending session and queues its work. -/
lemma of_placed (h : World.OnlyLapsed w v) (placed : Placement) :
    w.HasPlaced [placed] { v with
      store := (v.store.withSession (placed.session w.clock)).withWork (placed.work w.clock) } where
  clock := h.clock
  claims := h.claims
  queue := by
    rw [← h.queue]
    rfl
  sessions := by
    refine ⟨[placed.session w.clock], ?_, rfl, fun x hx => ?_⟩
    · rw [← h.sessions]
      rfl
    · rw [List.mem_singleton.1 hx]
      exact Or.inl rfl

/-- A failed session places nothing. -/
lemma of_failed (h : World.OnlyLapsed w v) {x : Session} (hx : x.status = .failed) :
    w.HasPlaced [] { v with store := v.store.withSession x } where
  clock := h.clock
  claims := h.claims
  queue := by
    rw [← h.queue]
    exact (List.append_nil _).symm
  sessions := by
    refine ⟨[x], ?_, ?_, fun y hy => ?_⟩
    · rw [← h.sessions]
      rfl
    · rw [List.filter_cons_of_neg (by rw [hx]; decide)]
      rfl
    · rw [List.mem_singleton.1 hy]
      exact Or.inr hx

end World.HasPlaced

namespace World.HasRanked

variable {b : StoreBacked ω} {w v u : World ω} {ps qs : List Placement}

/-- What leaves work and overrides alone places nothing. -/
lemma of_sameWork (h : World.SameWork w v)
    (hinForce : ∀ issueId, b.shelf.inForce v issueId = b.shelf.inForce w issueId) :
    w.HasRanked b [] v where
  toHasPlaced := .of_sameWork h
  missing := h.store.missing
  inForce := hinForce
  ranks _ hp := nomatch hp
  built hbuilt := hbuilt.of_queue_eq h.store.queue

lemma of_onlyLapsed (h : World.OnlyLapsed w v) : w.HasRanked b [] v :=
  of_sameWork (.of_onlyLapsed h) (h.inForce b.shelf)

protected lemma trans (h : w.HasRanked b ps v) (h' : v.HasRanked b qs u) :
    w.HasRanked b (ps ++ qs) u where
  toHasPlaced := h.toHasPlaced.trans h'.toHasPlaced
  missing := h'.missing.trans h.missing
  inForce issueId := (h'.inForce issueId).trans (h.inForce issueId)
  ranks p hp := by
    rcases List.mem_append.1 hp with hp | hp
    · exact h.ranks p hp
    · rw [h'.ranks p hp, StoreBacked.rankInForce, h.inForce, StoreBacked.rankInForce]
  built := trans_of Store.KeepsBuiltQueue h.built h'.built

/-- A session is placed at a time and under an identifier that does not stand in the queue. -/
lemma of_placed (h : World.OnlyLapsed w v) (placed : Placement)
    (hrank : placed.rank = b.rankInForce w placed.issue.id) (hclock : w.clock.isNaN = false)
    (hfree : v.store.hasQueued placed.sessionId = false) :
    w.HasRanked b [placed] { v with
      store := (v.store.withSession (placed.session w.clock)).withWork (placed.work w.clock) } where
  toHasPlaced := .of_placed h placed
  missing := h.missing
  inForce issueId := by
    rw [← h.inForce]
    cases b.shelf <;> rfl
  ranks p hp := by rwa [List.mem_singleton.1 hp]
  built hbuilt := by
    have hv : (v.store.withSession (placed.session w.clock)).HasBuiltQueue :=
      hbuilt.of_queue_eq h.queue
    exact hv.withWork hfree hclock

/-- A failed session has no rank in the queue. -/
lemma of_failed (h : World.OnlyLapsed w v) {x : Session} (hx : x.status = .failed) :
    w.HasRanked b [] { v with store := v.store.withSession x } where
  toHasPlaced := .of_failed h hx
  missing := h.missing
  inForce issueId := by
    rw [← h.inForce]
    cases b.shelf <;> rfl
  ranks _ hp := nomatch hp
  built hbuilt := hbuilt.of_queue_eq h.queue

end World.HasRanked

/-- What a placement is for: the issue and the kind of work. -/
def Placement.purpose (p : Placement) : Issue × Option String := (p.issue, some p.workType)

/-- What the dispatch of a candidate is for. -/
def Candidate.purpose (a : Candidate) : Issue × Option String :=
  (a.issue, a.decision.workType?.map WorkType.name)

/-- A candidate calls for an action. -/
lemma Judged.isActionable_of_candidate? {j : Judged} {a : Candidate} (h : j.candidate? = some a) :
    a.decision.isActionable = true := by
  obtain ⟨issue, position, fault | ⟨_ | _, priority⟩⟩ := j
  · cases h
  · cases h
  · obtain rfl := Option.some.inj h
    rfl

/-- A candidate is an issue as it has been evaluated. -/
lemma Judged.verdict_of_candidate? {j : Judged} {a : Candidate} (h : j.candidate? = some a) :
    a.issue = j.issue ∧ j.verdict = .ok (a.decision, a.priority) := by
  obtain ⟨issue, position, fault | ⟨_ | _, priority⟩⟩ := j
  · cases h
  · cases h
  · obtain rfl := Option.some.inj h
    exact ⟨rfl, rfl⟩

namespace Governor

variable {g : Governor ω} {b : StoreBacked ω} {w v : World ω}

/-- A dispatch that succeeds has placed one session for its issue, at the rank of the override in
force, and one that does not has placed none. -/
lemma tryOut_hasRanked (hcollaborators : g.collaborators = b.collaborators)
    (hquiet : b.tracker.IsQuiet) {a : Candidate} (haction : a.decision.isActionable = true)
    {t : Attempt} (ht : g.tryOut a w = (.ok t, v)) :
    ∃ ps, w.HasRanked b ps v ∧
      ps.map Placement.purpose = t.dispatched?.toList.map Candidate.purpose := by
  obtain ⟨hrecord, rfl⟩ := Prod.mk.inj ((tryOut_apply g a w).symm.trans ht)
  obtain rfl := Except.ok.inj hrecord
  obtain ⟨⟨issue, decision, override⟩, position⟩ := a
  cases decision with
  | skip reason => cases haction
  | dispatch action workType reason =>
    have hdispatch : g.dispatch issue (.dispatch action workType reason) =
        b.dispatch issue workType.name := by
      rw [dispatch, hcollaborators]
      rfl
    dsimp only
    rw [hdispatch]
    obtain ⟨w', hlapsed, hcases⟩ := b.dispatch_cases issue workType.name hquiet w
    rcases hcases with ⟨e, h⟩ | ⟨sessionId, prompt, h⟩
    · rw [h]
      exact ⟨[], .of_onlyLapsed hlapsed, rfl⟩
    · rw [h]
      rcases StoreBacked.place_cases issue workType.name sessionId (b.rankInForce w issue.id) prompt
        w.clock (OverridePriority.isStorable_rank _) w' with
        ⟨e, hp⟩ | ⟨-, -, -, hclock, hfree, hp⟩ | ⟨-, -, e, error, hp⟩ <;>
        rw [StoreBacked.rankInForce] at hp
      · rw [hp]
        exact ⟨[], .of_onlyLapsed hlapsed, rfl⟩
      · let placed : Placement :=
          { issue, workType := workType.name, sessionId, rank := b.rankInForce w issue.id, prompt }
        rw [hp]
        exact ⟨[placed], .of_placed hlapsed placed rfl hclock hfree, rfl⟩
      · rw [hp]
        exact ⟨[], .of_failed hlapsed rfl, rfl⟩

/-- Dispatches one after the other place a session for each one that succeeds. -/
lemma mapM_tryOut_hasRanked (hcollaborators : g.collaborators = b.collaborators)
    (hquiet : b.tracker.IsQuiet) {as : List Candidate}
    (haction : ∀ a ∈ as, a.decision.isActionable = true) {ts : List Attempt}
    (hts : as.mapM g.tryOut w = (.ok ts, v)) :
    ∃ ps, w.HasRanked b ps v ∧
      ps.map Placement.purpose = (ts.filterMap Attempt.dispatched?).map Candidate.purpose := by
  induction as generalizing w v ts with
  | nil =>
    rw [List.mapM_nil, Run.pure_apply] at hts
    obtain ⟨hnone, rfl⟩ := Prod.mk.inj hts
    obtain rfl := Except.ok.inj hnone
    exact ⟨[], .of_onlyLapsed (refl w), rfl⟩
  | cons a as ih =>
    obtain ⟨hfirst, hrest⟩ := List.forall_mem_cons.1 haction
    rw [List.mapM_cons] at hts
    obtain ⟨t, w', ht, hts⟩ := Run.exists_of_bind_eq_ok hts
    obtain ⟨later, v', hlater, hts⟩ := Run.exists_of_bind_eq_ok hts
    obtain ⟨hall, rfl⟩ := Prod.mk.inj hts
    obtain rfl := Except.ok.inj hall
    obtain ⟨ps, hplaced, hpurpose⟩ := tryOut_hasRanked hcollaborators hquiet hfirst ht
    obtain ⟨qs, hplaced', hpurpose'⟩ := ih hrest hlater
    refine ⟨ps ++ qs, hplaced.trans hplaced', ?_⟩
    rw [filterMap_cons_toList, List.map_append, List.map_append, hpurpose, hpurpose']

/-- What has been tried was a candidate. -/
lemma Passes.exists_judged_of_tried {issues : List Issue} {p : Pass} (h : g.Passes issues w p v)
    {a : Candidate} (ha : a ∈ p.attempts.map Attempt.candidate) :
    ∃ j ∈ p.judged, j.candidate? = some a :=
  List.mem_filterMap.1 (h.fills.perm.subset (List.mem_append_left p.leftOut ha))

/-- Evaluating the issues of a list keeps what each question keeps. -/
lemma judge_keeps {R : World ω → World ω → Prop} [IsPreorder (World ω) R]
    (hasked : g.collaborators.QuestionsKeep R) (listed : Issue × Nat) : (g.judge listed).Keeps R :=
  (evaluate_keeps (hasked.answers listed.1.id)).attempt.bind fun _ => .pure _

/-- A pass over the issues of a project places a session for each issue that it dispatches. -/
lemma Passes.hasRanked {issues : List Issue} {p : Pass}
    (hcollaborators : g.collaborators = b.collaborators) (hquiet : b.tracker.IsQuiet)
    (h : g.Passes issues w p v) :
    ∃ ps, w.HasRanked b ps v ∧
      ps.map Placement.purpose = p.dispatched.map Candidate.purpose := by
  obtain ⟨w', hjudged, htried⟩ := h.calls
  have hquestions : g.collaborators.QuestionsKeep World.OnlyLapsed :=
    hcollaborators ▸ StoreBacked.questionsKeep_collaborators hquiet
  have hlapsed : World.OnlyLapsed w w' :=
    (Run.Keeps.mapM fun issue _ => judge_keeps hquestions issue).of_apply_eq hjudged
  have haction (a : Candidate) (ha : a ∈ p.attempts.map Attempt.candidate) :
      a.decision.isActionable = true := by
    obtain ⟨j, -, hj⟩ := h.exists_judged_of_tried ha
    exact Judged.isActionable_of_candidate? hj
  obtain ⟨ps, hplaced, hpurpose⟩ := mapM_tryOut_hasRanked hcollaborators hquiet haction htried
  exact ⟨ps, (World.HasRanked.of_onlyLapsed hlapsed).trans hplaced, hpurpose⟩

/-- The result of a scan accounts for every listed issue once: it was dispatched, or it was skipped
for a reason, or there is an error about it.  With collaborators that answer from the store, the
sessions that are pending now and were not so before, and the new entries of the queue, are one each
for every issue that was dispatched, in the order of the dispatches. -/
theorem scanProject_accounts {project : Value} {issues : List Issue}
    (hlist : g.collaborators.listIssues project w = (.ok (some issues), v))
    (hdistinct : (issues.map Issue.identifier).Nodup) :
    ∃ (p : Pass) (u : World ω), g.Passes issues v p u ∧
      g.scanProject project w = (.ok (p.result project), u) ∧
      (p.dispatched.map Candidate.name ++ (p.result project).skippedReasons.map Prod.fst ++
        (p.result project).errors.map ScanError.issueId).Perm (issues.map Issue.identifier) ∧
      (∀ issue ∈ issues, (p.dispatched.map Candidate.name ++
        (p.result project).skippedReasons.map Prod.fst ++
        (p.result project).errors.map ScanError.issueId).count issue.identifier = 1) ∧
      (p.result project).scannedIssues = (p.result project).actionsDispatched +
        (p.result project).skippedReasons.length + (p.result project).errors.length ∧
      ∀ b : StoreBacked ω, g.collaborators = b.collaborators → b.tracker.IsQuiet →
        ∃ ps, w.HasPlaced ps u ∧
          ps.map Placement.purpose = p.dispatched.map Candidate.purpose := by
  obtain ⟨p, u, hpass, hscan⟩ := scanProject_of_list hlist
  have herrors : (p.result project).errors = p.failures.map Failure.error := rfl
  have hnames : p.failures.map (ScanError.issueId ∘ Failure.error) =
      p.failures.map Failure.name := rfl
  have hperm : (p.dispatched.map Candidate.name ++
      (p.result project).skippedReasons.map Prod.fst ++
      (p.result project).errors.map ScanError.issueId).Perm (issues.map Issue.identifier) := by
    rw [hpass.skippedReasons_eq hdistinct, herrors, List.map_map, hnames]
    exact hpass.perm_outcomes
  refine ⟨p, u, hpass, hscan, hperm, fun issue hissue => ?_, ?_, fun b hcollaborators hquiet => ?_⟩
  · rw [hperm.count_eq]
    exact List.count_eq_one_of_mem hdistinct (List.mem_map_of_mem hissue)
  · have hscanned : (p.result project).scannedIssues = issues.length := by
      rw [← hpass.map_issue, List.length_map]
      rfl
    have hdispatched : (p.result project).actionsDispatched = p.dispatched.length :=
      Nat.zero_add _
    have hlengths := hperm.length_eq
    simp only [List.length_append, List.length_map] at hlengths
    rw [hscanned, hdispatched, hlengths]
  · have hlisted : World.OnlyLapsed w v := by
      rw [hcollaborators] at hlist
      exact .of_onlyOutside ((hquiet.listIssues project).of_apply_eq hlist)
    obtain ⟨ps, hranked, hpurpose⟩ := hpass.hasRanked hcollaborators hquiet
    exact ⟨ps, (World.HasPlaced.of_onlyLapsed hlisted).trans hranked.toHasPlaced, hpurpose⟩

end Governor

/-! ## Three issues of three fates -/

/-- A tracker that gives out session ids from a list. -/
def Tracker.dealing (issues : List Issue) : Tracker (List String) where
  listIssues _ := return some issues
  newSessionId := fun w => (.ok (w.outside.headD ""), { w with outside := w.outside.tail })

lemma Tracker.isQuiet_dealing (issues : List Issue) : (Tracker.dealing issues).IsQuiet where
  listIssues _ := .pure (some issues)
  isParentIssue _ hcheck := nomatch hcheck
  prompt _ _ := .pure none
  newSessionId := fun w => ⟨w.outside.tail, rfl⟩

namespace Governor

/-- Two issues in the backlog and one that is done with. -/
def threeIssues : List Issue :=
  [.inBacklog "a", .inBacklog "b", { Issue.inBacklog "c" with status := "Accepted" }]

/-- What a governor asks of them. -/
def threeBacked : StoreBacked (List String) where
  settings := .standard
  shelf := .shared
  tracker := .dealing threeIssues

/-- A world in which two session ids are left, the second one with an entry that stands in the queue
already, so that its dispatch fails half-way. -/
def leftBehind : World (List String) where
  clock := 0
  store := { queue := [StoreBacked.newWork (.inBacklog "b") "t" "development" 3 none 0] }
  outside := ["s", "t"]

theorem scanProject_accounts_three :
    (threeIssues.map Issue.identifier).Nodup ∧
    ∃ (p : Pass) (u : World (List String)),
      (capped ["p"] 3 threeBacked.collaborators).Passes threeIssues leftBehind p u ∧
      (capped ["p"] 3 threeBacked.collaborators).scanProject (.str "p") leftBehind =
        (.ok (p.result (.str "p")), u) ∧
      (p.dispatched.map Candidate.name ++ (p.result (.str "p")).skippedReasons.map Prod.fst ++
        (p.result (.str "p")).errors.map ScanError.issueId).Perm ["a", "b", "c"] ∧
      (p.result (.str "p")).scannedIssues = (p.result (.str "p")).actionsDispatched +
        (p.result (.str "p")).skippedReasons.length + (p.result (.str "p")).errors.length ∧
      ∃ ps, leftBehind.HasPlaced ps u ∧
        ps.map Placement.purpose = p.dispatched.map Candidate.purpose := by
  have hlist : (capped ["p"] 3 threeBacked.collaborators).collaborators.listIssues (.str "p")
      leftBehind = (.ok (some threeIssues), leftBehind) := rfl
  have hdistinct : (threeIssues.map Issue.identifier).Nodup := by decide
  obtain ⟨p, u, hpass, hscan, hperm, -, hcounts, hplaced⟩ :=
    scanProject_accounts hlist hdistinct
  exact ⟨hdistinct, p, u, hpass, hscan, hperm, hcounts,
    hplaced threeBacked rfl (Tracker.isQuiet_dealing threeIssues)⟩

end Governor

end IssueDispatch
