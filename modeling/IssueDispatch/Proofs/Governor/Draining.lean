import IssueDispatch.Proofs.Governor.Accounting
import IssueDispatch.Proofs.Governor.Scanning
import IssueDispatch.Proofs.Governor.Selection
import IssueDispatch.Proofs.Governor.Soundness
import IssueDispatch.Proofs.Governor.Surveying

/-!
# Draining the queue after a scan

An override ranks an issue twice, and each time it is read anew: a scan sorts the candidates of a
project by the priorities that it read when it evaluated them, and the queue sorts all work by the
priorities that were read when it was dispatched.  The scan knows one project at a time and leaves
off where its cap is reached, while the queue knows neither projects nor places in a list, but only
priorities, times and the order of insertion.

Still the two agree.  While the clock stands still the override in force for an issue stays the
same, so both readings give one rank, and all work is queued at one time, so what decides between
entries of one rank is the order in which they were dispatched.  Within a project that is the order
of the list, and the projects come one after the other.
-/

namespace IssueDispatch

variable {ω : Type}

/-! ## Records of a whole scan -/

namespace Governor

/-- What a scan finds in some projects, one after the other: a record of each project that it gets
to, from one world to another.  It breaks off at a project whose issues are no list at all. -/
inductive Surveys (g : Governor ω) :
    List Value → World ω → List ProjectRecord → World ω → Prop
  | done {w : World ω} : g.Surveys [] w [] w
  | unlisted {project : Value} {projects : List Value} {fault : Fault} {rs : List ProjectRecord}
      {w v u : World ω} (hlist : g.collaborators.listIssues project w = (.error fault, v))
      (hrest : g.Surveys projects v rs u) :
      g.Surveys (project :: projects) w (⟨project, .error fault⟩ :: rs) u
  | listed {project : Value} {projects : List Value} {issues : List Issue} {p : Pass}
      {rs : List ProjectRecord} {w v v' u : World ω}
      (hlist : g.collaborators.listIssues project w = (.ok (some issues), v))
      (hpass : g.Passes issues v p v') (hrest : g.Surveys projects v' rs u) :
      g.Surveys (project :: projects) w (⟨project, .ok p⟩ :: rs) u
  | broken {project : Value} {projects : List Value} {w v : World ω}
      (hlist : g.collaborators.listIssues project w = (.ok none, v)) :
      g.Surveys (project :: projects) w [] v

variable {g : Governor ω} {b : StoreBacked ω} {projects : List Value} {issues : List Issue}
  {p : Pass} {rs : List ProjectRecord} {w v u : World ω}

/-- The scan of some projects leads where a survey of them leads, and if it comes to an end, its
results are read off the records. -/
lemma exists_surveys (g : Governor ω) (projects : List Value) (w : World ω) :
    ∃ rs, g.Surveys projects w rs (projects.mapM g.scanProject w).2 ∧
      ∀ results, (projects.mapM g.scanProject w).1 = .ok results →
        results = rs.map ProjectRecord.result := by
  induction projects generalizing w with
  | nil => exact ⟨[], .done, fun results h => (Except.ok.inj h).symm⟩
  | cons project projects ih =>
    -- The first result stands in front of those that are found from where its scan leads.
    have hcons {r : ProjectRecord} {v : World ω} {rs : List ProjectRecord}
        (hscan : g.scanProject project w = (.ok r.result, v))
        (hrest : ∀ results, (projects.mapM g.scanProject v).1 = .ok results →
          results = rs.map ProjectRecord.result) (results : List ScanResult)
        (h : ((project :: projects).mapM g.scanProject w).1 = .ok results) :
        results = (r :: rs).map ProjectRecord.result := by
      rw [Run.mapM_cons_apply hscan] at h
      rcases hall : (projects.mapM g.scanProject v).1 with e | later <;> rw [hall] at h
      · cases h
      · rw [List.map_cons, ← hrest later hall]
        exact (Except.ok.inj h).symm
    rcases hlist : g.collaborators.listIssues project w with ⟨fault | issues?, v⟩
    · have hscan := scanProject_of_error hlist
      obtain ⟨rs, hsurveys, hresults⟩ := ih v
      refine ⟨⟨project, .error fault⟩ :: rs, ?_, hcons hscan hresults⟩
      rw [Run.mapM_cons_apply hscan]
      exact .unlisted hlist hsurveys
    cases issues? with
    | none =>
      have hthrown : g.scanProject project w =
          (.error (.wrongKind "the issues of a project are no list"), v) := by
        rw [scanProject, Run.bind_of_ok (Run.attempt_apply _ w), hlist]
        rfl
      have hall : (project :: projects).mapM g.scanProject w =
          (.error (.wrongKind "the issues of a project are no list"), v) := by
        rw [List.mapM_cons, Run.bind_of_error hthrown]
      rw [hall]
      refine ⟨[], .broken hlist, fun results h => ?_⟩
      cases h
    | some issues =>
      obtain ⟨p, v', hpass, hscan⟩ := scanProject_of_list hlist
      obtain ⟨rs, hsurveys, hresults⟩ := ih v'
      refine ⟨⟨project, .ok p⟩ :: rs, ?_, hcons (r := ⟨project, .ok p⟩) hscan hresults⟩
      rw [Run.mapM_cons_apply hscan]
      exact .listed hlist hpass hsurveys

/-- What a scan dispatched in a project stands in the order of dispatches. -/
lemma Surveys.pairwise_dispatched (h : g.Surveys projects w rs u) :
    ∀ r ∈ rs, r.pass.dispatched.Pairwise Candidate.Precedes := by
  induction h with
  | done => simp
  | unlisted _ _ ih => exact List.forall_mem_cons.2 ⟨.nil, ih⟩
  | listed _ hpass _ ih =>
    refine List.forall_mem_cons.2 ⟨?_, ih⟩
    have htried := (List.pairwise_append.1 hpass.selects.sorted).1
    refine (List.pairwise_map.1 htried).filterMap Attempt.dispatched? ?_
    intro t t' hbefore a ha a' ha'
    rwa [← Attempt.candidate_of_dispatched? ha, ← Attempt.candidate_of_dispatched? ha']
  | broken _ => simp

/-! ## One rank from two readings -/

/-- The priority by which a candidate is sorted is that of the override in force when the pass
begins. -/
lemma Passes.priority_eq (hcollaborators : g.collaborators = b.collaborators)
    (hquiet : b.tracker.IsQuiet) (h : g.Passes issues w p v) {a : Candidate}
    (ha : a ∈ p.dispatched) :
    a.priority = (b.shelf.inForce w a.issue.id).bind Override.priority? := by
  obtain ⟨t, ht, hdispatched⟩ := List.mem_filterMap.1 ha
  obtain rfl := Attempt.candidate_of_dispatched? hdispatched
  obtain ⟨j, hj, hcandidate⟩ := h.exists_judged_of_tried (List.mem_map_of_mem ht)
  obtain ⟨w', hjudged, -⟩ := h.calls
  obtain ⟨listed, -, before, s, s', hs, hjudge⟩ := Run.exists_of_mem_mapM hjudged hj
  have hasked := asksQuietly hquiet hcollaborators
  have hlapsed : World.OnlyLapsed w s :=
    hs ▸ Run.Keeps.mapM (fun issue _ => judge_keeps hasked issue) w
  obtain rfl := Except.ok.inj (Prod.mk.inj hjudge).1
  obtain ⟨hissue, hverdict⟩ := Judged.verdict_of_candidate? hcandidate
  obtain ⟨ctx, hgathered, -⟩ := exists_gathered_of_evaluate hasked (Prod.ext hverdict rfl)
  have hanswers := hgathered.priority
  rw [hcollaborators] at hanswers
  rw [StoreBacked.priority_of_answers hanswers, hlapsed.inForce, hissue]

/-- Projects that are scanned one after the other get a session for each issue that is dispatched in
one of them, and each issue was sorted by the override in force. -/
lemma Surveys.hasRanked (hcollaborators : g.collaborators = b.collaborators)
    (hquiet : b.tracker.IsQuiet) (h : g.Surveys projects w rs u) :
    ∃ ps, w.HasRanked b ps u ∧ ps.map Placement.purpose =
        (rs.flatMap fun r => r.pass.dispatched).map Candidate.purpose ∧
      ∀ a ∈ rs.flatMap fun r => r.pass.dispatched,
        a.priority = (b.shelf.inForce w a.issue.id).bind Override.priority? := by
  have hlisted {project : Value} {w v : World ω} {listing : Except Fault (Option (List Issue))}
      (hlist : g.collaborators.listIssues project w = (listing, v)) : World.OnlyLapsed w v :=
    ((asksQuietly hquiet hcollaborators).listIssues project).of_apply_eq hlist
  induction h with
  | done => exact ⟨[], .of_onlyLapsed (refl _), rfl, by simp⟩
  | unlisted hlist _ ih =>
    obtain ⟨ps, hranked, hpurpose, hpriority⟩ := ih
    have hlapsed := hlisted hlist
    refine ⟨ps, (World.HasRanked.of_onlyLapsed hlapsed).trans hranked, hpurpose, fun a ha => ?_⟩
    rw [← hlapsed.inForce]
    exact hpriority a ha
  | listed hlist hpass _ ih =>
    have hlapsed := hlisted hlist
    obtain ⟨ps, hranked, hpurpose⟩ := hpass.hasRanked hcollaborators hquiet
    obtain ⟨qs, hranked', hpurpose', hpriority⟩ := ih
    refine ⟨ps ++ qs, (World.HasRanked.of_onlyLapsed hlapsed).trans (hranked.trans hranked'), ?_,
      fun a ha => ?_⟩
    · rw [List.map_append, hpurpose, hpurpose', List.flatMap_cons, List.map_append]
      rfl
    · rw [← hlapsed.inForce]
      rcases List.mem_append.1 ha with ha | ha
      · exact hpass.priority_eq hcollaborators hquiet ha
      · rw [hpriority a ha, hranked.inForce]
  | broken hlist => exact ⟨[], .of_onlyLapsed (hlisted hlist), rfl, by simp⟩

end Governor

/-! ## The order of a whole scan -/

/-- A candidate that has been dispatched, and the place of its project in the scan. -/
structure Dispatched extends Candidate where
  project : Nat

namespace Dispatched

/-- One dispatch comes before another one for the workers: by the rank of the override, then by the
project, and then by the place in the list of issues. -/
def ClaimedBefore (a b : Dispatched) : Prop :=
  a.rank < b.rank ∨ a.rank = b.rank ∧
    (a.project < b.project ∨ a.project = b.project ∧ a.position < b.position)

/-- The order in which work is handed out as far as the queue knows it: by the rank alone. -/
def rankLe (a b : Dispatched) : Bool := Candidate.rankLe a.toCandidate b.toCandidate

lemma rankLe_trans (a b c : Dispatched) (hab : rankLe a b = true) (hbc : rankLe b c = true) :
    rankLe a c = true :=
  Candidate.rankLe_trans _ _ _ hab hbc

lemma rankLe_total (a b : Dispatched) : (rankLe a b || rankLe b a) = true :=
  Candidate.rankLe_total _ _

end Dispatched

/-- The dispatches in a project. -/
def ProjectRecord.dispatchedIn (r : ProjectRecord) (project : Nat) : List Dispatched :=
  r.pass.dispatched.map fun a => ⟨a, project⟩

/-- The dispatches of a scan, in the order in which they were made. -/
def ProjectRecord.allDispatched (rs : List ProjectRecord) : List Dispatched :=
  rs.zipIdx.flatMap fun (r, i) => r.dispatchedIn i

namespace ProjectRecord

variable {rs : List ProjectRecord}

lemma map_toCandidate_allDispatched (rs : List ProjectRecord) :
    (allDispatched rs).map Dispatched.toCandidate = rs.flatMap fun r => r.pass.dispatched := by
  have hproject (r : ProjectRecord) (i : Nat) :
      (r.dispatchedIn i).map Dispatched.toCandidate = r.pass.dispatched :=
    (List.map_map).trans (List.map_id _)
  rw [allDispatched, List.map_flatMap]
  simp only [hproject]
  conv_rhs => rw [← List.zipIdx_map_fst 0 rs, List.flatMap_map]

lemma project_of_mem_dispatchedIn {r : ProjectRecord} {i : Nat} {d : Dispatched}
    (h : d ∈ r.dispatchedIn i) : d.project = i := by
  obtain ⟨_, -, rfl⟩ := List.mem_map.1 h
  rfl

/-- Projects that are scanned from some place on have their places from there on. -/
lemma project_bounds {k : Nat} {d : Dispatched}
    (h : d ∈ (rs.zipIdx k).flatMap fun (r, i) => r.dispatchedIn i) :
    k ≤ d.project ∧ d.project < k + rs.length := by
  obtain ⟨⟨r, i⟩, hr, hd⟩ := List.mem_flatMap.1 h
  obtain ⟨hlow, hhigh, -⟩ := List.mem_zipIdx hr
  rw [project_of_mem_dispatchedIn hd]
  omega

/-- The dispatches of a scan fall into those of its projects. -/
lemma filter_allDispatched {i : Nat} {r : ProjectRecord} (hr : rs[i]? = some r) :
    (allDispatched rs).filter (·.project == i) = r.dispatchedIn i := by
  obtain ⟨before, after, rfl, rfl⟩ : ∃ before after, rs = before ++ r :: after ∧
      before.length = i := by
    obtain ⟨hi, rfl⟩ := List.getElem?_eq_some_iff.1 hr
    refine ⟨rs.take i, rs.drop (i + 1), ?_, List.length_take_of_le (Nat.le_of_lt hi)⟩
    rw [List.getElem_cons_drop, List.take_append_drop]
  have hbefore (d : Dispatched)
      (hd : d ∈ before.zipIdx.flatMap fun (r, i) => r.dispatchedIn i) :
      ¬ (d.project == before.length) = true := by
    have hbounds := project_bounds hd
    rw [beq_iff_eq]
    omega
  have hafter (d : Dispatched)
      (hd : d ∈ (after.zipIdx (before.length + 1)).flatMap fun (r, i) => r.dispatchedIn i) :
      ¬ (d.project == before.length) = true := by
    have hbounds := project_bounds hd
    rw [beq_iff_eq]
    omega
  have hhere (d : Dispatched) (hd : d ∈ r.dispatchedIn before.length) :
      (d.project == before.length) = true :=
    beq_iff_eq.2 (project_of_mem_dispatchedIn hd)
  rw [allDispatched, List.zipIdx_append, List.zipIdx_cons, Nat.zero_add, List.flatMap_append,
    List.flatMap_cons, List.filter_append, List.filter_append, List.filter_eq_nil_iff.2 hbefore,
    List.filter_eq_self.2 hhere, List.filter_eq_nil_iff.2 hafter, List.nil_append, List.append_nil]

/-- Dispatches that were made one after the other stand in the order of their projects, and within
each project in the order of dispatches. -/
lemma pairwise_allDispatched (h : ∀ r ∈ rs, r.pass.dispatched.Pairwise Candidate.Precedes) :
    (allDispatched rs).Pairwise fun a b => a.project < b.project ∨
      a.project = b.project ∧ a.toCandidate.Precedes b.toCandidate := by
  have hplaces : rs.zipIdx.Pairwise fun x y => x.2 < y.2 := by
    have hrange : (rs.zipIdx.map Prod.snd).Pairwise (· < ·) := by
      rw [List.zipIdx_map_snd]
      exact List.pairwise_lt_range' 1
    exact List.pairwise_map.1 hrange
  refine List.pairwise_flatMap.2 ⟨fun (r, i) hr => ?_, hplaces.imp fun hlt a ha b hb => ?_⟩
  · have hmem : r ∈ rs := by
      rw [← List.zipIdx_map_fst 0 rs]
      exact List.mem_map_of_mem hr
    exact List.pairwise_map.2 ((h r hmem).imp fun hbefore => Or.inr ⟨rfl, hbefore⟩)
  · rw [project_of_mem_dispatchedIn ha, project_of_mem_dispatchedIn hb]
    exact Or.inl hlt

/-- The dispatches of a scan in the order in which workers receive them. -/
def inClaimOrder (rs : List ProjectRecord) : List Dispatched :=
  (allDispatched rs).mergeSort Dispatched.rankLe

/-- Sorting the dispatches by their ranks leaves those of one rank in the order of their projects
and places. -/
lemma pairwise_inClaimOrder (h : ∀ r ∈ rs, r.pass.dispatched.Pairwise Candidate.Precedes) :
    (inClaimOrder rs).Pairwise Dispatched.ClaimedBefore := by
  refine (Sorting.pairwise_mergeSort_stable Dispatched.rankLe_trans Dispatched.rankLe_total
    (pairwise_allDispatched h)).imp ?_
  intro a b ⟨hle, hmade⟩
  rw [Dispatched.rankLe, Candidate.rankLe_iff] at hle hmade
  rcases Nat.lt_or_eq_of_le hle with hlower | hsame
  · exact Or.inl hlower
  · refine Or.inr ⟨hsame, (hmade (Nat.le_of_eq hsame.symm)).imp_right fun ⟨hproject, hbefore⟩ => ?_⟩
    rcases hbefore with hrank | ⟨-, hposition⟩
    · exact absurd hsame (Nat.ne_of_lt hrank)
    · exact ⟨hproject, hposition⟩

/-- Within a project, workers receive the dispatches as they were made. -/
lemma filter_inClaimOrder (h : ∀ r ∈ rs, r.pass.dispatched.Pairwise Candidate.Precedes)
    {i : Nat} {r : ProjectRecord} (hr : rs[i]? = some r) :
    (inClaimOrder rs).filter (·.project == i) = r.dispatchedIn i := by
  have hsorted : (r.dispatchedIn i).Pairwise fun a b => Dispatched.rankLe a b = true := by
    refine List.pairwise_map.2 ((h r (List.mem_of_getElem? hr)).imp fun hbefore => ?_)
    refine Candidate.rankLe_iff.2 ?_
    rcases hbefore with hlower | ⟨hsame, -⟩
    · exact Nat.le_of_lt hlower
    · exact Nat.le_of_eq hsame
  rw [inClaimOrder, Sorting.filter_mergeSort_comm Dispatched.rankLe_trans Dispatched.rankLe_total,
    filter_allDispatched hr, List.mergeSort_of_pairwise hsorted]

end ProjectRecord

/-! ## The order of the queue -/

/-- What work is for. -/
def Work.errand (w : Work) : Errand := (w.issueId, some w.workType, some w.priority)

/-- The order of errands by their priorities. -/
def Errand.rankLe (x y : Errand) : Bool := decide (x.2.2.getD 0 ≤ y.2.2.getD 0)

/-- Claims by any workers hand out some work from a store, one piece each in the given order, and
then nothing, when the queue is empty. -/
def Store.Drains (s : Store) (ws : List Work) : Prop :=
  ∀ callers : List (String × Binary64), ∃ s',
    callers.mapM (fun c => Store.claim c.1 none c.2) s =
        (.ok ((ws.take callers.length).map some ++
          List.replicate (callers.length - ws.length) none), s') ∧
      (ws.length ≤ callers.length → s'.queue = [])

namespace Store

variable {s : Store}

/-- A worker without a list of projects may have everything. -/
lemma eligible_none (htimes : ∀ w ∈ s.queue, w.queuedAt.isNaN = false) :
    s.eligible none = s.queue.mergeSort placeLe := by
  rw [eligible_eq_mergeSort htimes]
  exact congrArg (·.mergeSort placeLe) (List.filter_eq_self.2 fun _ _ => rfl)

/-- The queue is drained in the order of claims. -/
lemma drains_eligible (htables : s.Has workTables) (hbuilt : s.HasBuiltQueue) :
    s.Drains (s.eligible none) := by
  intro callers
  obtain ⟨s', hclaims, honly⟩ : ∃ s', callers.mapM (fun c => claim c.1 none c.2) s = _ ∧
      s.OnlyHandsOut _ s' := claims_eq htables hbuilt.ids hbuilt.times callers
  refine ⟨s', hclaims, fun hlength => ?_⟩
  rw [honly.queue, List.take_of_length_le hlength, List.filter_eq_nil_iff]
  intro w hw hkept
  have heligible : w ∈ s.eligible none := mem_eligible.2 ⟨hw, fun _ hnames => nomatch hnames⟩
  exact of_decide_eq_true hkept (List.mem_map_of_mem heligible)

/-- Work that was queued at one time is handed out by its priorities alone. -/
lemma map_errand_eligible (hbuilt : s.HasBuiltQueue) {now : Binary64}
    (hnow : ∀ w ∈ s.queue, w.queuedAt = now) :
    (s.eligible none).map Work.errand = (s.queue.map Work.errand).mergeSort Errand.rankLe := by
  rw [eligible_none hbuilt.times]
  refine List.map_mergeSort fun a ha b hb => ?_
  have hplace : place a = place b := by rw [place, place, hnow a ha, hnow b hb]
  rw [Bool.eq_iff_iff, placeLe_iff, hplace, Errand.rankLe, decide_eq_true_iff]
  change _ ↔ a.priority ≤ b.priority
  omega

end Store

/-! ## The whole scan -/

/-- What touches only touchpoints and records of failed cycles places nothing. -/
lemma World.HasRanked.of_onlyTracks {b : StoreBacked ω} {w v : World ω} (h : w.OnlyTracks v) :
    w.HasRanked b [] v := by
  refine .of_sameWork (.of_onlyTracks h) fun issueId => ?_
  cases b.shelf with
  | shared =>
    rw [OverrideShelf.inForce, OverrideShelf.kept, h.frame, h.store]
    rfl
  | inProcess =>
    rw [OverrideShelf.inForce, OverrideShelf.kept, h.frame]
    rfl

/-- Placements are for the same errands as dispatches if they are for the same purposes and both are
ranked by one rule. -/
lemma Placement.map_errand_eq {ps : List Placement} {ds : List Dispatched} (rankOf : String → Nat)
    (hpurpose : ps.map Placement.purpose = ds.map fun d => d.purpose)
    (hps : ∀ p ∈ ps, p.rank = rankOf p.issue.id) (hds : ∀ d ∈ ds, d.rank = rankOf d.issue.id) :
    ps.map Placement.errand = ds.map fun d => d.errand := by
  let errand (x : Issue × Option String) : Errand := (x.1.id, x.2, some (rankOf x.1.id))
  have hplaced (p : Placement) (hp : p ∈ ps) : p.errand = errand p.purpose := by
    rw [Placement.errand, hps p hp]
    rfl
  have hdispatched (d : Dispatched) (hd : d ∈ ds) : d.errand = errand d.purpose := by
    rw [Actionable.errand, hds d hd]
    rfl
  calc ps.map Placement.errand
      = (ps.map Placement.purpose).map errand := by
        rw [List.map_map]
        exact List.map_congr_left hplaced
    _ = (ds.map fun d => d.purpose).map errand := by rw [hpurpose]
    _ = ds.map fun d => d.errand := by
        rw [List.map_map]
        exact (List.map_congr_left hdispatched).symm

namespace Governor

variable {g : Governor ω} {b : StoreBacked ω} {projects : List Value} {rs : List ProjectRecord}
  {w u : World ω}

/-- Every dispatch in some projects was sorted by the override in force at the beginning. -/
lemma Surveys.priority_eq (hcollaborators : g.collaborators = b.collaborators)
    (hquiet : b.tracker.IsQuiet) (h : g.Surveys projects w rs u) {d : Dispatched}
    (hd : d ∈ ProjectRecord.allDispatched rs) :
    d.priority = (b.shelf.inForce w d.issue.id).bind Override.priority? := by
  obtain ⟨-, -, -, hpriority⟩ := h.hasRanked hcollaborators hquiet
  refine hpriority d.toCandidate ?_
  rw [← ProjectRecord.map_toCandidate_allDispatched]
  exact List.mem_map_of_mem hd

/-- What has been dispatched into an empty queue is handed out by its ranks. -/
lemma Surveys.exists_drains (hcollaborators : g.collaborators = b.collaborators)
    (hquiet : b.tracker.IsQuiet) (h : g.Surveys projects w rs u)
    (htables : w.store.Has Store.workTables) (hempty : w.store.queue = []) :
    ∃ ws : List Work, ws.map Work.errand =
        (ProjectRecord.inClaimOrder rs).map (fun d => d.errand) ∧ u.store.Drains ws := by
  obtain ⟨ps, hranked, hpurpose, -⟩ := h.hasRanked hcollaborators hquiet
  have hqueue : u.store.queue = ps.map fun p => p.work w.clock := by
    rw [hranked.queue, hempty, List.nil_append]
  have hbuilt : u.store.HasBuiltQueue := hranked.built (by constructor <;> simp [hempty])
  have hnow : ∀ x ∈ u.store.queue, x.queuedAt = w.clock := by
    rw [hqueue]
    exact List.forall_mem_map.2 fun _ _ => rfl
  -- Both ranks of a dispatch are read off the override that is in force from the beginning.
  have herrands : u.store.queue.map Work.errand =
      (ProjectRecord.allDispatched rs).map fun d => d.errand := by
    rw [← ProjectRecord.map_toCandidate_allDispatched, List.map_map] at hpurpose
    rw [hqueue, List.map_map]
    refine Placement.map_errand_eq (b.rankInForce w) hpurpose hranked.ranks fun d hd => ?_
    rw [Actionable.rank, h.priority_eq hcollaborators hquiet hd, StoreBacked.rankInForce]
  refine ⟨u.store.eligible none, ?_,
    Store.drains_eligible (htables.of_missing_eq hranked.missing) hbuilt⟩
  rw [Store.map_errand_eligible hbuilt hnow, herrands]
  exact (List.map_mergeSort fun a _ b _ => by simp [Errand.rankLe, Actionable.errand,
    Dispatched.rankLe, Candidate.rankLe, Actionable.rankLe, Actionable.rank]).symm

/-- What happens before the first project places nothing. -/
lemma hasRanked_outset (hdiscreet : g.IsDiscreet) (b : StoreBacked ω) (w : World ω) :
    w.HasRanked b [] (g.outset w) := by
  have hbegin : w.HasRanked b [] (g.underway w) :=
    .of_sameWork ⟨rfl, refl w.store⟩ fun _ => by cases b.shelf <;> rfl
  have hgoesOn : Run.Continues (fun w v : World ω => w.HasRanked b [] v) World.OnlyOutside :=
    ⟨fun w => .of_onlyLapsed (refl w),
      fun h h' => h.trans (.of_onlyLapsed (.of_onlyOutside h'))⟩
  have htimeouts : g.processTimeouts.Keeps fun w v => w.HasRanked b [] v :=
    processTimeouts_keeps hgoesOn
      (fun e _ => (e.processTimeouts_keeps none).mono fun _ _ => .of_onlyTracks) hdiscreet.onError
  exact hbegin.trans (htimeouts (g.underway w))

/-- What happens after the last project leaves the store alone. -/
lemma store_scan (hdiscreet : g.IsDiscreet) (hidle : g.id ∉ w.scanning)
    {r : Except Fault (List ScanResult)} (hall : g.scanAll (g.underway w) = (r, u)) :
    (g.scan w).2.store = u.store := by
  rcases (scan_of_idle hidle hall).2 with hleft | ⟨results, hleft⟩
  · rw [hleft]
    rfl
  · obtain ⟨o, ho⟩ := hdiscreet.onScanComplete results (g.finished u)
    rw [hleft, ho]
    rfl

/-- Workers receive what a scan dispatched in the order of the overrides.  Whoever makes the claims,
they hand out exactly the issues that the scan dispatched into the empty queue: by the rank of the
override in force, those of one rank in the order of the projects, and those of one project in the
order of the list.  So within each project work is handed out as it was dispatched. -/
theorem scan_drains_by_rank (hcollaborators : g.collaborators = b.collaborators)
    (hquiet : b.tracker.IsQuiet) (hdiscreet : g.IsDiscreet) (hidle : g.id ∉ w.scanning)
    (htables : w.store.Has Store.workTables) (hempty : w.store.queue = []) :
    ∃ (rs : List ProjectRecord) (u : World ω),
      g.Surveys g.settings.projects (g.outset w) rs u ∧ (g.scan w).2.store = u.store ∧
      (∀ results, (g.scan w).1 = .ok results → results = rs.map ProjectRecord.result) ∧
      ∃ (ds : List Dispatched) (ws : List Work),
        ds.Perm (ProjectRecord.allDispatched rs) ∧ ds.Pairwise Dispatched.ClaimedBefore ∧
        (∀ i r, rs[i]? = some r →
          (ds.filter (·.project == i)).map Dispatched.toCandidate = r.pass.dispatched) ∧
        (∀ d ∈ ds, d.priority = (b.shelf.inForce w d.issue.id).bind Override.priority?) ∧
        ws.map Work.errand = ds.map (fun d => d.errand) ∧ (g.scan w).2.store.Drains ws := by
  obtain ⟨rs, hsurveys, hresults⟩ := g.exists_surveys g.settings.projects (g.outset w)
  rcases hfound : g.settings.projects.mapM g.scanProject (g.outset w) with ⟨r, u⟩
  rw [hfound] at hsurveys hresults
  have hall : g.scanAll (g.underway w) = (r, u) := (g.scanAll_underway w).trans hfound
  have hended : (g.scan w).1 = r := (scan_of_idle hidle hall).1
  have hstore := store_scan hdiscreet hidle hall
  have hbegin := hasRanked_outset hdiscreet b w
  have hempty' : (g.outset w).store.queue = [] := by
    rw [hbegin.queue, hempty]
    rfl
  obtain ⟨ws, herrands, hdrains⟩ := hsurveys.exists_drains hcollaborators hquiet
    (htables.of_missing_eq hbegin.missing) hempty'
  have hsorted := hsurveys.pairwise_dispatched
  refine ⟨rs, u, hsurveys, hstore, fun results h => hresults results (hended.symm.trans h),
    ProjectRecord.inClaimOrder rs, ws, List.mergeSort_perm _ _,
    ProjectRecord.pairwise_inClaimOrder hsorted, fun i r hr => ?_, fun d hd => ?_, herrands, ?_⟩
  · rw [ProjectRecord.filter_inClaimOrder hsorted hr]
    exact List.map_map.trans (List.map_id _)
  · rw [← hbegin.inForce]
    exact hsurveys.priority_eq hcollaborators hquiet (List.mem_mergeSort.1 hd)
  · rwa [hstore]

/-- A governor that looks after three projects, each of which has an issue of its own. -/
def lookingAfterThree : Governor Nat :=
  .counting [.str "a", .str "b", .str "c"] 3 fun project =>
    .ok [.inBacklog (project.str?.getD "")]

/-- The issue of the last project is preferred.  It has been dispatched after the others, but is
ranked before them. -/
theorem scan_drains_by_rank_three :
    (lookingAfterThree.scan (.preferring "c")).2.store.queue.map Work.errand =
      [("a", some "development", some 3), ("b", some "development", some 3),
        ("c", some "development", some 0)] ∧
    ∃ (rs : List ProjectRecord) (u : World Nat),
      lookingAfterThree.Surveys [.str "a", .str "b", .str "c"]
        (lookingAfterThree.outset (.preferring "c")) rs u ∧
      ∃ (ds : List Dispatched) (ws : List Work),
        ds.Perm (ProjectRecord.allDispatched rs) ∧ ds.Pairwise Dispatched.ClaimedBefore ∧
        ws.map Work.errand = ds.map (fun d => d.errand) ∧
        (lookingAfterThree.scan (.preferring "c")).2.store.Drains ws := by
  let listing (project : Value) : Except Fault (List Issue) :=
    .ok [.inBacklog (project.str?.getD "")]
  have hdiscreet : lookingAfterThree.IsDiscreet := ⟨fun _ => .pure (), fun _ => .pure ()⟩
  have htables : (World.preferring "c").store.Has Store.workTables :=
    Store.has_of_missing rfl Store.workTables
  obtain ⟨rs, u, hsurveys, -, -, ds, ws, hperm, hsorted, -, -, herrands, hdrains⟩ :=
    scan_drains_by_rank (g := lookingAfterThree) (b := .counting listing) rfl
      (Tracker.steadyCounting listing).isQuiet hdiscreet List.not_mem_nil htables rfl
  exact ⟨by decide +kernel, rs, u, hsurveys, ds, ws, hperm, hsorted, herrands, hdrains⟩

end Governor

end IssueDispatch
