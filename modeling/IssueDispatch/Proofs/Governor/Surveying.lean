import IssueDispatch.Proofs.Governor.Relating
import IssueDispatch.Proofs.Governor.Tracing

/-!
# Scans of collaborators that stick to their answers

`Governor.survey` does what a scan does in all projects and keeps the records of its passes.

What a scan finds depends in general on what it did before: a dispatch makes an issue busy, and the
listing of the next project may fail because of it.  If instead the collaborators answer alike in
all worlds that a scan can lead to (`Governor.IsConstantOn`), then every record is determined by the
answers in the world in which the scan begins.
-/

namespace IssueDispatch

variable {ω : Type}

/-! ## Computations with one result -/

namespace Run

variable {σ α β : Type} {P : σ → Prop}

/-- Computations that have the same results in all states of a kind have them one after the
other. -/
lemma Respects.mapM_eq {f : α → Run σ β} (hf : ∀ a, (f a).Respects fun s t => P s ∧ P t)
    {s₀ s : σ} (h₀ : P s₀) (hs : P s) {as : List α} {result : α → β}
    (hresult : ∀ a ∈ as, (f a s₀).1 = .ok (result a)) :
    ∃ u, as.mapM f s = (.ok (as.map result), u) ∧ P u := by
  induction as generalizing s with
  | nil => exact ⟨s, rfl, hs⟩
  | cons a as ih =>
    obtain ⟨hfirst, hrest⟩ := List.forall_mem_cons.1 hresult
    obtain ⟨hsame, -, hP⟩ := hf a s₀ s ⟨h₀, hs⟩
    have ha : f a s = (.ok (result a), (f a s).2) := Prod.ext (hsame.trans hfirst) rfl
    obtain ⟨u, hall, hu⟩ := ih hP hrest
    refine ⟨u, ?_, hu⟩
    rw [List.mapM_cons, bind_of_ok ha, bind_of_ok hall]
    rfl

/-- What is read off each result may be read off the list of results. -/
lemma mapM_map {γ : Type} (f : α → Run σ β) (read : β → γ) (as : List α) :
    (as.mapM fun a => do return read (← f a)) = (do return (← as.mapM f).map read) := by
  induction as with
  | nil => simp
  | cons a as ih =>
    rw [List.mapM_cons, List.mapM_cons, ih]
    simp

end Run

/-! ## Records of projects -/

/-- The record of the scan of a project: the pass over its issues, or why they could not be
listed. -/
structure ProjectRecord where
  project : Value
  outcome : Except Fault Pass

namespace ProjectRecord

/-- The pass over the issues of the project, which is empty if they could not be listed. -/
def pass (r : ProjectRecord) : Pass :=
  match r.outcome with
  | .error _ => ⟨[], [], []⟩
  | .ok p => p

/-- The result of a scan that finds the same. -/
def result (r : ProjectRecord) : ScanResult :=
  match r.outcome with
  | .error fault =>
    { project := r.project, errors := [⟨"project:" ++ r.project.text, fault.message⟩] }
  | .ok p => p.result r.project

lemma result_actionsDispatched (r : ProjectRecord) :
    r.result.actionsDispatched = r.pass.dispatched.length := by
  obtain ⟨project, fault | p⟩ := r
  · rfl
  · exact Nat.zero_add _

lemma result_skippedReasons (r : ProjectRecord) :
    r.result.skippedReasons = ScanResult.addReasons r.pass.skips [] := by
  obtain ⟨project, fault | p⟩ := r <;> rfl

end ProjectRecord

namespace Governor

variable {g : Governor ω}

/-- Scans a project and keeps a record. -/
def surveyProject (g : Governor ω) (project : Value) : Run (World ω) ProjectRecord := do
  match ← Run.attempt (g.collaborators.listIssues project) with
  | .error fault => return ⟨project, .error fault⟩
  | .ok none => throw (.wrongKind "the issues of a project are no list")
  | .ok (some issues) => return ⟨project, .ok (← g.pass issues)⟩

/-- Scans all projects and keeps a record of each. -/
def survey (g : Governor ω) : Run (World ω) (List ProjectRecord) := do
  let _ ← g.processTimeouts
  g.settings.projects.mapM g.surveyProject

section Project

variable {project : Value} {w v u : World ω}

lemma surveyProject_of_error {fault : Fault}
    (hlist : g.collaborators.listIssues project w = (.error fault, v)) :
    g.surveyProject project w = (.ok ⟨project, .error fault⟩, v) := by
  rw [surveyProject, Run.bind_of_ok (Run.attempt_apply _ w), hlist]
  rfl

lemma surveyProject_of_list {issues : List Issue} {p : Pass}
    (hlist : g.collaborators.listIssues project w = (.ok (some issues), v))
    (hpass : g.pass issues v = (.ok p, u)) :
    g.surveyProject project w = (.ok ⟨project, .ok p⟩, u) := by
  rw [surveyProject, Run.bind_of_ok (Run.attempt_apply _ w), hlist]
  dsimp only
  rw [Run.bind_of_ok hpass]
  rfl

end Project

/-- The result of the scan of a project is read off its record. -/
lemma scanProject_eq_survey (g : Governor ω) (project : Value) :
    g.scanProject project = (do return (← g.surveyProject project).result) := by
  funext w
  rcases hlist : g.collaborators.listIssues project w with ⟨fault | issues?, v⟩
  · rw [scanProject_of_error hlist, Run.bind_of_ok (surveyProject_of_error hlist)]
    rfl
  · cases issues? with
    | none =>
      have hthrown : g.surveyProject project w =
          (.error (.wrongKind "the issues of a project are no list"), v) := by
        rw [surveyProject, Run.bind_of_ok (Run.attempt_apply _ w), hlist]
        rfl
      rw [Run.bind_of_error hthrown, scanProject, Run.bind_of_ok (Run.attempt_apply _ w), hlist]
      rfl
    | some issues =>
      obtain ⟨p, u, hpass, hscan⟩ := scanProject_of_list hlist
      rw [hscan, Run.bind_of_ok (surveyProject_of_list hlist hpass.run)]
      rfl

/-- The results of a scan are read off its records. -/
lemma scanAll_eq_survey (g : Governor ω) :
    g.scanAll = (do return (← g.survey).map ProjectRecord.result) := by
  have hprojects : g.settings.projects.mapM g.scanProject =
      (do return (← g.settings.projects.mapM g.surveyProject).map ProjectRecord.result) := by
    rw [← Run.mapM_map, funext g.scanProject_eq_survey]
  rw [scanAll, hprojects, survey, bind_assoc]

/-- Proceeding with touchpoints ends well, whatever goes wrong. -/
lemma exists_processTimeouts (g : Governor ω) (w : World ω) :
    ∃ proceeded, g.processTimeouts w = (.ok proceeded, (g.processTimeouts w).2) := by
  rw [processTimeouts]
  cases g.escalation with
  | none => exact ⟨[], rfl⟩
  | some e =>
    dsimp only
    rw [Run.bind_of_ok (Run.attempt_apply _ w)]
    rcases (e.processTimeouts none w).1 with fault | proceeded
    · exact ⟨[], rfl⟩
    · exact ⟨_, rfl⟩

/-- The world while a scan of the governor is under way. -/
def underway (g : Governor ω) (w : World ω) : World ω :=
  { w with scanning := g.id :: w.scanning }

/-- The world in which a scan begins with the first project. -/
def outset (g : Governor ω) (w : World ω) : World ω := (g.processTimeouts (g.underway w)).2

/-- The world once a scan of the governor is over. -/
def finished (g : Governor ω) (w : World ω) : World ω :=
  { w with scanning := w.scanning.filter (· != g.id) }

/-- All projects are scanned from where proceeding with touchpoints leads. -/
lemma scanAll_underway (g : Governor ω) (w : World ω) :
    g.scanAll (g.underway w) = g.settings.projects.mapM g.scanProject (g.outset w) := by
  obtain ⟨proceeded, hproceeded⟩ := g.exists_processTimeouts (g.underway w)
  exact Run.bind_of_ok hproceeded

/-- If no scan is under way, a scan ends as the scan of all projects does, and what is left behind
is changed by nothing but the callback for its results. -/
lemma scan_of_idle {w u : World ω} (hidle : g.id ∉ w.scanning)
    {r : Except Fault (List ScanResult)} (hall : g.scanAll (g.underway w) = (r, u)) :
    (g.scan w).1 = r ∧ ((g.scan w).2 = g.finished u ∨
      ∃ results, (g.scan w).2 = (g.onScanComplete results (g.finished u)).2) := by
  have hnot : w.scanning.contains g.id = false := by simpa using hidle
  have hwhile : g.whileScanning g.scanAll w = (r, g.finished u) := by
    rw [whileScanning, Run.bind_of_ok (Run.modify_apply _ w)]
    change (Run.attempt g.scanAll >>= _) (g.underway w) = _
    rw [Run.bind_of_ok (Run.attempt_apply _ _), hall, Run.bind_of_ok (Run.modify_apply _ _)]
    rfl
  rw [scan, Run.bind_of_ok (show g.isScanning w = (.ok (w.scanning.contains g.id), w) from rfl),
    hnot, if_neg Bool.false_ne_true]
  cases r with
  | error fault =>
    rw [Run.bind_of_error hwhile]
    exact ⟨rfl, Or.inl rfl⟩
  | ok results =>
    rw [Run.bind_of_ok hwhile]
    exact ⟨rfl, Or.inr ⟨results, rfl⟩⟩

/-- If no scan is under way, a scan gives what is read off the records. -/
lemma scan_of_survey {w : World ω} (hidle : g.id ∉ w.scanning) {rs : List ProjectRecord}
    (hsurvey : (g.survey (g.underway w)).1 = .ok rs) :
    (g.scan w).1 = .ok (rs.map ProjectRecord.result) := by
  have hall : g.scanAll (g.underway w) =
      (.ok (rs.map ProjectRecord.result), (g.survey (g.underway w)).2) := by
    rw [scanAll_eq_survey]
    exact Run.bind_of_ok (Prod.ext hsurvey rfl)
  exact (scan_of_idle hidle hall).1

/-! ## Answers that stay the same -/

/-- What a governor asks for has the same answers in all worlds of a kind, and neither to ask nor to
dispatch leads out of them. -/
structure IsConstantOn (g : Governor ω) (P : World ω → Prop) : Prop where
  clock : ∀ w v, P w → P v → v.clock = w.clock
  collaborators : g.collaborators.Respect fun w v => P w ∧ P v
  awaiting : ∀ issueId, (g.awaiting issueId).Respects fun w v => P w ∧ P v

namespace IsConstantOn

variable {P : World ω → Prop} (h : g.IsConstantOn P)

include h

lemma evaluate_respects (issue : Issue) :
    (g.evaluate issue).Respects fun w v => P w ∧ P v :=
  Governor.evaluate_respects (.read fun w v hP => h.clock w v hP.1 hP.2)
    (h.collaborators.answers issue.id) (h.awaiting issue.id)

lemma dispatch_respects (issue : Issue) (d : Decision) :
    (g.dispatch issue d).Respects fun w v => P w ∧ P v := by
  cases d with
  | skip reason => exact .pure ()
  | dispatch action workType reason => exact h.collaborators.dispatch issue action workType

lemma judge_respects (listed : Issue × Nat) : (g.judge listed).Respects fun w v => P w ∧ P v :=
  (h.evaluate_respects listed.1).attempt.bind fun _ => .pure _

lemma tryOut_respects (a : Candidate) : (g.tryOut a).Respects fun w v => P w ∧ P v :=
  (h.dispatch_respects a.issue a.decision).attempt.bind fun _ => .pure _

lemma tryUpTo_respects (room : Int) (as : List Candidate) :
    (g.tryUpTo room as).Respects fun w v => P w ∧ P v := by
  induction as generalizing room with
  | nil => exact .pure ([], [])
  | cons a rest ih =>
    rw [tryUpTo]
    exact .ite (.pure _) ((h.tryOut_respects a).bind fun t => (ih _).bind fun _ => .pure _)

lemma surveyProject_respects (project : Value) :
    (g.surveyProject project).Respects fun w v => P w ∧ P v := by
  refine (h.collaborators.listIssues project).attempt.bind fun listing => ?_
  split
  · exact .pure _
  · exact .throw _
  · refine Run.Respects.bind ?_ fun _ => .pure _
    exact (Run.Respects.mapM h.judge_respects _).bind fun _ =>
      (h.tryUpTo_respects _ _).bind fun _ => .pure _

end IsConstantOn

/-! ## What the answers determine -/

/-- The answers in a world determine the record of a pass over some issues: every listed issue is
evaluated, and of those that call for an action as many are tried as it takes to fill the room. -/
structure Determines (g : Governor ω) (w : World ω) (issues : List Issue) (p : Pass) : Prop where
  judged : p.judged =
    issues.zipIdx.map fun listed => ⟨listed.1, listed.2, (g.evaluate listed.1 w).1⟩
  outcome : ∀ t ∈ p.attempts, t.outcome = (g.dispatch t.candidate.issue t.candidate.decision w).1
  fills : FillsRoom g.settings.maxConcurrentDispatches (p.candidates.mergeSort Candidate.rankLe)
    p.attempts p.leftOut

/-- The answers in a world determine the record of a project: it cannot be listed, or there is a
pass over its issues. -/
inductive Finds (g : Governor ω) (w : World ω) : ProjectRecord → Prop
  | unlisted {project : Value} {fault : Fault}
      (hlist : (g.collaborators.listIssues project w).1 = .error fault) :
      g.Finds w ⟨project, .error fault⟩
  | listed {project : Value} {issues : List Issue} {p : Pass}
      (hlist : (g.collaborators.listIssues project w).1 = .ok (some issues))
      (hpass : g.Determines w issues p) : g.Finds w ⟨project, .ok p⟩

/-- The error that is noted about an issue that cannot be evaluated in a world. -/
def evaluationError? (g : Governor ω) (w : World ω) (issue : Issue) : Option ScanError :=
  match (g.evaluate issue w).1 with
  | .error fault => some ⟨issue.identifier, fault.message⟩
  | .ok _ => none

/-- The error that is noted about an issue that cannot be dispatched in a world, unless it is
busy. -/
def dispatchError? (g : Governor ω) (w : World ω) (a : Candidate) : Option ScanError :=
  match (g.dispatch a.issue a.decision w).1 with
  | .ok () => none
  | .error (.issueBusy ..) => none
  | .error fault => some ⟨a.issue.identifier, fault.message⟩

/-- The errors that are met in a world: one about a project that cannot be listed, or those about
its issues that cannot be evaluated and about those that were tried and cannot be dispatched. -/
def errorsAt (g : Governor ω) (w : World ω) (r : ProjectRecord) : List ScanError :=
  match (g.collaborators.listIssues r.project w).1 with
  | .error fault => [⟨"project:" ++ r.project.text, fault.message⟩]
  | .ok none => []
  | .ok (some issues) => issues.filterMap (g.evaluationError? w) ++
      (r.pass.attempts.map Attempt.candidate).filterMap (g.dispatchError? w)

section Errors

variable {w : World ω} {issues : List Issue} {p : Pass} {r : ProjectRecord}

/-- The failures of a record are those of the answers. -/
lemma Determines.map_failures (h : g.Determines w issues p) :
    p.failures.map Failure.error = issues.filterMap (g.evaluationError? w) ++
      (p.attempts.map Attempt.candidate).filterMap (g.dispatchError? w) := by
  rw [Pass.failures, List.map_append, List.map_filterMap, List.map_filterMap, List.filterMap_map]
  congr 1
  · rw [h.judged, List.filterMap_map]
    conv_rhs => rw [← List.zipIdx_map_fst 0 issues, List.filterMap_map]
    refine List.filterMap_congr fun listed _ => ?_
    dsimp only [Function.comp_apply, Judged.failure?, evaluationError?]
    cases (g.evaluate listed.1 w).1 <;> rfl
  · refine List.filterMap_congr fun t ht => ?_
    rw [Function.comp_apply, dispatchError?, ← h.outcome t ht]
    obtain ⟨a, fault | _⟩ := t
    · cases fault <;> rfl
    · rfl

/-- The errors in the result are those that are met. -/
lemma Finds.errors_eq (h : g.Finds w r) : r.result.errors = g.errorsAt w r := by
  cases h with
  | unlisted hlist =>
    rw [errorsAt, hlist]
    rfl
  | listed hlist hpass =>
    rw [errorsAt, hlist]
    exact hpass.map_failures

/-- Nothing is found if no issues could be listed. -/
lemma determines_nil (g : Governor ω) (w : World ω) : g.Determines w [] ⟨[], [], []⟩ where
  judged := rfl
  outcome _ ht := nomatch ht
  fills := ⟨by simp [Pass.candidates], fun _ hk => (nomatch hk), fun h => absurd rfl h⟩

/-- What was found in a project is a pass over some issues. -/
lemma Finds.exists_determines (h : g.Finds w r) : ∃ issues, g.Determines w issues r.pass := by
  cases h with
  | unlisted _ => exact ⟨[], g.determines_nil w⟩
  | listed _ hpass => exact ⟨_, hpass⟩

end Errors

/-- A pass in which nothing changes the answers is determined by those at the start. -/
lemma Passes.determines {P : World ω → Prop} (h : g.IsConstantOn P) {start v u : World ω}
    (hstart : P start) (hv : P v) {issues : List Issue} {p : Pass}
    (hpass : g.Passes issues v p u) : g.Determines start issues p := by
  obtain ⟨v', hjudged, htried⟩ := hpass.calls
  -- The calls are made in other worlds than the first one, but in worlds of the same kind.
  have hjudge (listed : Issue × Nat) (_ : listed ∈ issues.zipIdx) : (g.judge listed start).1 =
      .ok ⟨listed.1, listed.2, (g.evaluate listed.1 start).1⟩ :=
    congrArg Prod.fst (judge_apply g listed start)
  obtain ⟨x, hall, hx⟩ := Run.Respects.mapM_eq h.judge_respects hstart hv hjudge
  obtain ⟨hsame, rfl⟩ := Prod.mk.inj (hjudged.symm.trans hall)
  have htry (a : Candidate) (_ : a ∈ p.attempts.map Attempt.candidate) :
      (g.tryOut a start).1 = .ok ⟨a, (g.dispatch a.issue a.decision start).1⟩ :=
    congrArg Prod.fst (tryOut_apply g a start)
  obtain ⟨y, hattempts, -⟩ := Run.Respects.mapM_eq h.tryOut_respects hstart hx htry
  have houtcomes := Except.ok.inj (Prod.mk.inj (htried.symm.trans hattempts)).1
  rw [List.map_map] at houtcomes
  refine ⟨Except.ok.inj hsame, fun t ht => ?_, hpass.fills⟩
  have heach := List.map_inj_left.1 ((List.map_id _).trans houtcomes) t ht
  exact congrArg Attempt.outcome heach

/-- What is found out about a project where nothing changes the answers. -/
lemma IsConstantOn.exists_finds {P : World ω → Prop} (h : g.IsConstantOn P) {w : World ω}
    (hw : P w) {project : Value}
    (hlist : (g.collaborators.listIssues project w).1 ≠ .ok none) :
    ∃ r, (g.surveyProject project w).1 = .ok r ∧ r.project = project ∧ g.Finds w r := by
  obtain ⟨-, -, hv⟩ := h.collaborators.listIssues project w w ⟨hw, hw⟩
  rcases hfirst : g.collaborators.listIssues project w with ⟨fault | issues?, v⟩
  · refine ⟨⟨project, .error fault⟩, ?_, rfl, .unlisted (by rw [hfirst])⟩
    rw [surveyProject_of_error hfirst]
  · rw [hfirst] at hlist hv
    cases issues? with
    | none => exact absurd rfl hlist
    | some issues =>
      obtain ⟨p, u, hpass, -⟩ := scanProject_of_list hfirst
      refine ⟨⟨project, .ok p⟩, ?_, rfl, .listed (by rw [hfirst]) (hpass.determines h hw hv)⟩
      rw [surveyProject_of_list hfirst hpass.run]

/-- The record of a project as it is found from a world on.  A scan that fails altogether is
recorded with its fault. -/
def recordAt (g : Governor ω) (w : World ω) (project : Value) : ProjectRecord :=
  match (g.surveyProject project w).1 with
  | .ok r => r
  | .error fault => ⟨project, .error fault⟩

/-- Where nothing changes the answers, each project is found as from the start. -/
lemma IsConstantOn.survey_eq {P : World ω → Prop} (h : g.IsConstantOn P) {w start : World ω}
    (houtset : g.outset w = start) (hstart : P start)
    (hlists : ∀ project ∈ g.settings.projects,
      (g.collaborators.listIssues project start).1 ≠ .ok none) :
    (g.survey (g.underway w)).1 = .ok (g.settings.projects.map (g.recordAt start)) ∧
      ∀ project ∈ g.settings.projects, (g.recordAt start project).project = project ∧
        g.Finds start (g.recordAt start project) := by
  have hfound (project : Value) (hmem : project ∈ g.settings.projects) :
      (g.surveyProject project start).1 = .ok (g.recordAt start project) ∧
        (g.recordAt start project).project = project ∧
        g.Finds start (g.recordAt start project) := by
    obtain ⟨r, hr, hproject, hfinds⟩ := h.exists_finds hstart (hlists project hmem)
    have hrecord : g.recordAt start project = r := by rw [recordAt, hr]
    rw [hrecord]
    exact ⟨hr, hproject, hfinds⟩
  obtain ⟨proceeded, hproceeded⟩ := g.exists_processTimeouts (g.underway w)
  obtain ⟨u, hall, -⟩ := Run.Respects.mapM_eq h.surveyProject_respects hstart hstart
    fun project hmem => (hfound project hmem).1
  refine ⟨?_, fun project hmem => (hfound project hmem).2⟩
  rw [survey, Run.bind_of_ok hproceeded]
  change (g.settings.projects.mapM g.surveyProject (g.outset w)).1 = _
  rw [houtset, hall]

end Governor

end IssueDispatch
