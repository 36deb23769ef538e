import IssueDispatch.Proofs.Governor.Keeping
import IssueDispatch.Proofs.Governor.Scanning
import IssueDispatch.Proofs.Governor.Surveying

/-!
# Scans within scans

A governor runs one scan at a time, and what it asks for the issues of a project may in turn ask the
governor for a scan.  A `Listing` is what such a lister does: it looks at the world, changes it,
asks for scans, and in the end answers or fails.  Only the mark that says which scans are under way
is out of its reach.

While a scan is under way the mark stands, so every scan that the lister asks for is turned away at
once.  Hence the lister might as well go on without asking (`Listing.runAlone`), and this carries
over from one project to the whole scan.  As nothing but the scan itself changes the mark, it is
gone at the end, however the scan ends.
-/

namespace IssueDispatch

variable {ω : Type}

/-- Computations one after the other do the same as others that agree with them in all states of a
kind, if these do not lead out of it. -/
lemma Run.mapM_eq_of_agree {σ α β : Type} {P : σ → Prop} {f f' : α → Run σ β}
    (hagree : ∀ a s, P s → f a s = f' a s) (hkeep : ∀ a s, P s → P (f' a s).2) (as : List α) {s : σ}
    (hs : P s) : as.mapM f s = as.mapM f' s := by
  induction as generalizing s with
  | nil => rfl
  | cons a as ih =>
    have hstays := hkeep a s hs
    rw [List.mapM_cons, List.mapM_cons, bind_apply, bind_apply, hagree a s hs]
    rcases hfirst : f' a s with ⟨fault | b, t⟩
    · rfl
    · rw [hfirst] at hstays
      dsimp only
      rw [bind_apply, bind_apply, ih hstays]

/-! ## Listers that ask for scans -/

/-- What a lister does to answer for a project. -/
inductive Listing (ω : Type) where
  | look (next : World ω → Listing ω)
  | change (f : World ω → World ω) (next : Listing ω)
  | rescan (next : Except Fault (List ScanResult) → Listing ω)
  | answer (r : Except Fault (Option (List Issue)))

namespace Listing

/-- A change that leaves alone which scans are under way. -/
def changed (f : World ω → World ω) (w : World ω) : World ω :=
  { f w with scanning := w.scanning }

/-- Runs a lister, which asks for scans of a kind. -/
def run (scan : Run (World ω) (List ScanResult)) : Listing ω → Run (World ω) (Option (List Issue))
  | look next => fun w => (next w).run scan w
  | change f next => fun w => next.run scan (changed f w)
  | rescan next => fun w => (next (scan w).1).run scan (scan w).2
  | answer r => Run.ofExcept r

/-- Runs a lister without the scans it asks for, as if each of them had found nothing to do. -/
def runAlone : Listing ω → Run (World ω) (Option (List Issue))
  | look next => fun w => (next w).runAlone w
  | change f next => fun w => next.runAlone (changed f w)
  | rescan next => (next (.ok [])).runAlone
  | answer r => Run.ofExcept r

/-- The worlds in which a lister asks for a scan, one after the other. -/
def calls (scan : Run (World ω) (List ScanResult)) : Listing ω → World ω → List (World ω)
  | look next, w => (next w).calls scan w
  | change f next, w => next.calls scan (changed f w)
  | rescan next, w => w :: (next (scan w).1).calls scan (scan w).2
  | answer _, _ => []

/-- A lister by itself leaves alone which scans are under way. -/
lemma runAlone_sameScans (l : Listing ω) : l.runAlone.Keeps World.SameScans := by
  induction l with
  | look next ih => exact fun w => ih w w
  | change f next ih => exact fun w => ih (changed f w)
  | rescan next ih => exact ih (.ok [])
  | answer r => exact .ofExcept r

end Listing

namespace Governor

/-- The governor with another lister. -/
def relisting (g : Governor ω) (lister : Value → Run (World ω) (Option (List Issue))) :
    Governor ω :=
  { g with collaborators := { g.collaborators with listIssues := lister } }

/-- A scan that does not look whether one is under way. -/
def scanInFull (g : Governor ω) : Run (World ω) (List ScanResult) := do
  let results ← g.whileScanning g.scanAll
  let _ ← Run.attempt (g.onScanComplete results)
  return results

/-- Apart from the lister, what a governor asks for and tells leaves alone which scans are under
way. -/
structure LeavesScans (g : Governor ω) : Prop where
  answers : ∀ issueId, g.collaborators.AnswersKeep World.SameScans issueId
  dispatch : ∀ issue action workType,
    (g.collaborators.dispatch issue action workType).Keeps World.SameScans
  onScanComplete : ∀ results, (g.onScanComplete results).Keeps World.SameScans
  onError : ∀ fault, (g.onError fault).Keeps World.SameScans

variable {g : Governor ω} {lister : Value → Listing ω} {w v : World ω}

/-! ### Scans that are turned away -/

/-- While a scan is under way, another one is turned away, whatever the governor is connected to. -/
lemma scan_of_underway (h : g.id ∈ w.scanning) : g.scan w = (.ok [], w) := by
  have hasked : g.isScanning w = (.ok true, w) := by
    rw [← List.contains_iff_mem.2 h]
    rfl
  rw [scan, Run.bind_of_ok hasked]
  rfl

lemma scan_of_not_underway (h : g.id ∉ w.scanning) : g.scan w = g.scanInFull w := by
  have hasked : g.isScanning w = (.ok false, w) := by
    rw [← Bool.eq_false_iff.2 (mt List.contains_iff_mem.1 h)]
    rfl
  rw [scan, Run.bind_of_ok hasked]
  rfl

/-- While a scan is under way, a lister goes on as if it had not asked for others. -/
lemma run_eq_runAlone (l : Listing ω) (h : g.id ∈ w.scanning) :
    l.run g.scan w = l.runAlone w := by
  induction l generalizing w with
  | look next ih => exact ih w h
  | change f next ih => exact ih (w := Listing.changed f w) h
  | rescan next ih =>
    change (next (g.scan w).1).run g.scan (g.scan w).2 = _
    rw [scan_of_underway h]
    exact ih (.ok []) h
  | answer r => rfl

/-- While a scan is under way, this stays so at every further scan that a lister asks for. -/
lemma mem_scanning_of_mem_calls (l : Listing ω) (h : g.id ∈ w.scanning) :
    ∀ u ∈ l.calls g.scan w, g.id ∈ u.scanning := by
  induction l generalizing w with
  | look next ih => exact ih w h
  | change f next ih => exact ih (w := Listing.changed f w) h
  | rescan next ih =>
    rw [Listing.calls, scan_of_underway h]
    exact List.forall_mem_cons.2 ⟨h, ih (.ok []) h⟩
  | answer r => exact fun u hu => nomatch hu

/-! ### A whole scan -/

/-- Issues are evaluated without the lister. -/
lemma evaluateAll_relisting (g : Governor ω) (f : Value → Run (World ω) (Option (List Issue)))
    (issues : List Issue) (r : ScanResult) :
    (g.relisting f).evaluateAll issues r = g.evaluateAll issues r := by
  induction issues generalizing r with
  | nil => rfl
  | cons issue rest ih =>
    rw [evaluateAll, evaluateAll]
    simp only [ih]
    rfl

/-- Issues are dispatched without the lister. -/
lemma dispatchAll_relisting (g : Governor ω) (f : Value → Run (World ω) (Option (List Issue)))
    (as : List Actionable) (r : ScanResult) :
    (g.relisting f).dispatchAll as r = g.dispatchAll as r := by
  induction as generalizing r with
  | nil => rfl
  | cons a rest ih =>
    rw [dispatchAll, dispatchAll]
    simp only [ih]
    rfl

/-- Projects are scanned alike by listers that answer alike while a scan is under way. -/
lemma scanProject_relisting {f : Value → Run (World ω) (Option (List Issue))}
    (hlist : ∀ project w, g.id ∈ w.scanning → g.collaborators.listIssues project w = f project w)
    (project : Value) (h : g.id ∈ w.scanning) :
    g.scanProject project w = (g.relisting f).scanProject project w := by
  have hsame : Run.attempt (g.collaborators.listIssues project) w = Run.attempt (f project) w := by
    rw [Run.attempt_apply, Run.attempt_apply, hlist project w h]
  rw [scanProject, scanProject, Run.bind_apply, hsame, ← Run.bind_apply]
  simp only [evaluateAll_relisting, dispatchAll_relisting]
  rfl

/-- A computation that runs while a scan counts as under way. -/
lemma whileScanning_apply {α : Type} (g : Governor ω) (x : Run (World ω) α) (w : World ω) :
    g.whileScanning x w = ((x (g.underway w)).1, g.finished (x (g.underway w)).2) := by
  rw [whileScanning, Run.bind_of_ok (Run.modify_apply _ w)]
  change (Run.attempt x >>= _) (g.underway w) = _
  rw [Run.bind_of_ok (Run.attempt_apply _ _), Run.bind_of_ok (Run.modify_apply _ _)]
  rfl

/-! ### Results of a whole scan -/

/-- The result of the scan of a project is about this project. -/
lemma project_of_scanProject {project : Value} {r : ScanResult}
    (h : g.scanProject project w = (.ok r, v)) : r.project = project := by
  rcases hlist : g.collaborators.listIssues project w with ⟨fault | _ | issues, u⟩
  · rw [scanProject_of_error hlist] at h
    obtain rfl := Except.ok.inj (Prod.mk.inj h).1
    rfl
  · rw [scanProject, Run.bind_of_ok (Run.attempt_apply _ w), hlist] at h
    cases (Prod.mk.inj h).1
  · obtain ⟨p, _, -, hscan⟩ := scanProject_of_list hlist
    rw [hscan] at h
    obtain rfl := Except.ok.inj (Prod.mk.inj h).1
    rfl

/-- There is one result for each project. -/
lemma map_project_of_mapM {projects : List Value} {results : List ScanResult}
    (h : projects.mapM g.scanProject w = (.ok results, v)) :
    results.map ScanResult.project = projects := by
  induction projects generalizing results w v with
  | nil =>
    obtain rfl := Except.ok.inj (Prod.mk.inj h).1
    rfl
  | cons project projects ih =>
    rw [List.mapM_cons] at h
    obtain ⟨r, u, hfirst, h⟩ := Run.exists_of_bind_eq_ok h
    obtain ⟨rs, u', hrest, h⟩ := Run.exists_of_bind_eq_ok h
    obtain rfl := Except.ok.inj (Prod.mk.inj h).1
    rw [List.map_cons, project_of_scanProject hfirst, ih hrest]

/-- A scan that runs in full and gives results has gone through all projects. -/
lemma map_project_of_scanInFull {results : List ScanResult}
    (h : g.scanInFull w = (.ok results, v)) :
    results.map ScanResult.project = g.settings.projects := by
  obtain ⟨rs, u, hwhile, h⟩ := Run.exists_of_bind_eq_ok h
  obtain ⟨_, _, -, h⟩ := Run.exists_of_bind_eq_ok h
  obtain rfl := Except.ok.inj (Prod.mk.inj h).1
  rw [whileScanning_apply, scanAll_underway] at hwhile
  exact map_project_of_mapM (Prod.ext (Prod.mk.inj hwhile).1 rfl)

/-! ### Marks that are left alone -/

namespace LeavesScans

/-- It does not matter for this which lister a governor has. -/
lemma relisting (hg : g.LeavesScans) (f : Value → Run (World ω) (Option (List Issue))) :
    (g.relisting f).LeavesScans where
  answers issueId :=
    { hasActiveSession := (hg.answers issueId).hasActiveSession
      isWithinCooldown := (hg.answers issueId).isWithinCooldown
      isParentIssue := (hg.answers issueId).isParentIssue
      isHeld := (hg.answers issueId).isHeld
      overridePriority := (hg.answers issueId).overridePriority
      strategy := (hg.answers issueId).strategy
      isResearchCompleted := (hg.answers issueId).isResearchCompleted
      isBacklogCreationCompleted := (hg.answers issueId).isBacklogCreationCompleted }
  dispatch := hg.dispatch
  onScanComplete := hg.onScanComplete
  onError := hg.onError

/-- A governor with a lister that leaves scans alone is connected to nothing that does not. -/
lemma keep_relisting (hg : g.LeavesScans) {f : Value → Run (World ω) (Option (List Issue))}
    (hf : ∀ project, (f project).Keeps World.SameScans) :
    (g.relisting f).collaborators.Keep World.SameScans where
  listIssues := hf
  answers := (hg.relisting f).answers
  dispatch := hg.dispatch

lemma processTimeouts_sameScans (hg : g.LeavesScans) :
    g.processTimeouts.Keeps World.SameScans := by
  refine processTimeouts_keeps (S := World.SameScans) (.of_imp fun _ _ h => h)
    (fun e _ => ?_) hg.onError
  exact (e.processTimeouts_keeps none).mono fun w w' h => by rw [World.SameScans, h.frame]

lemma mem_scanning_outset (hg : g.LeavesScans) (w : World ω) : g.id ∈ (g.outset w).scanning := by
  have hsame : (g.outset w).scanning = g.id :: w.scanning :=
    hg.processTimeouts_sameScans (g.underway w)
  exact hsame ▸ List.mem_cons_self

variable {f : Value → Run (World ω) (Option (List Issue))}
  (hf : ∀ project, (f project).Keeps World.SameScans)
  (hlist : ∀ project w, g.id ∈ w.scanning → g.collaborators.listIssues project w = f project w)

include hf hlist

/-- Any number of projects is scanned alike while a scan is under way. -/
lemma projects_relisting (hg : g.LeavesScans) (projects : List Value) (h : g.id ∈ w.scanning) :
    projects.mapM g.scanProject w = projects.mapM (g.relisting f).scanProject w := by
  refine Run.mapM_eq_of_agree (P := fun w => g.id ∈ w.scanning)
    (fun project w hw => scanProject_relisting hlist project hw) (fun project w hw => ?_) projects h
  have hsame : ((g.relisting f).scanProject project w).2.scanning = w.scanning :=
    scanProject_keeps (hg.keep_relisting hf) project w
  exact hsame ▸ hw

/-- While a scan is under way, this stays so from one project to the next. -/
lemma projects_sameScans (hg : g.LeavesScans) (projects : List Value) (h : g.id ∈ w.scanning) :
    (projects.mapM g.scanProject w).2.scanning = w.scanning := by
  rw [hg.projects_relisting hf hlist projects h]
  have hkeeps : (projects.mapM (g.relisting f).scanProject).Keeps World.SameScans :=
    .mapM fun project _ => scanProject_keeps (hg.keep_relisting hf) project
  exact hkeeps w

/-- Scans are alike if the listers answer alike while a scan is under way. -/
lemma scan_relisting (hg : g.LeavesScans) (w : World ω) :
    g.scan w = (g.relisting f).scan w := by
  by_cases h : g.id ∈ w.scanning
  · rw [scan_of_underway h]
    exact (scan_of_underway (g := g.relisting f) h).symm
  · have hall : g.scanAll (g.underway w) =
        (g.relisting f).scanAll ((g.relisting f).underway w) := by
      rw [scanAll_underway, scanAll_underway]
      exact hg.projects_relisting hf hlist g.settings.projects (hg.mem_scanning_outset w)
    have hwhile : g.whileScanning g.scanAll w =
        (g.relisting f).whileScanning (g.relisting f).scanAll w := by
      rw [whileScanning_apply, whileScanning_apply, hall]
      rfl
    rw [scan_of_not_underway h, scan_of_not_underway (g := g.relisting f) h, scanInFull, scanInFull,
      Run.bind_apply, hwhile, ← Run.bind_apply]
    rfl

/-- A scan leaves no mark, be it that it ends with results or with a fault. -/
lemma scan_sameScans (hg : g.LeavesScans) : g.scan.Keeps World.SameScans := by
  intro w
  by_cases h : g.id ∈ w.scanning
  · rw [scan_of_underway h]
    rfl
  · have hall : (g.scanAll (g.underway w)).2.scanning = g.id :: w.scanning := by
      rw [scanAll_underway, hg.projects_sameScans hf hlist g.settings.projects
        (hg.mem_scanning_outset w)]
      exact hg.processTimeouts_sameScans (g.underway w)
    have hfinished : (g.finished (g.scanAll (g.underway w)).2).scanning = w.scanning := by
      rw [finished, hall, List.filter_cons_of_neg (by simp), List.filter_eq_self]
      exact fun x hx => bne_iff_ne.2 fun hid => h (hid ▸ hx)
    rcases scan_of_idle h (Prod.ext rfl rfl) with ⟨-, hend | ⟨results, hend⟩⟩
    · rw [hend]
      exact hfinished
    · rw [hend]
      exact (hg.onScanComplete results _).trans hfinished

end LeavesScans

/-! ## Scans of listers that ask for scans -/

/-- A scan of a governor whose lister may ask for scans itself.  Each of these is turned away: it
finds nothing and changes nothing, whatever a governor with this identifier is connected to.  The
scan gives and leaves behind what it would with the lister alone.  Once it has ended, with results
or with a fault, no scan is under way, and the next one runs in full, through all projects. -/
structure IsSingleFlight (g : Governor ω) (lister : Value → Listing ω) (w : World ω) : Prop where
  turnsAway : ∀ before project after results v,
    g.settings.projects = before ++ project :: after →
    before.mapM g.scanProject (g.outset w) = (.ok results, v) →
    ∀ u ∈ (lister project).calls g.scan v, ∀ g' : Governor ω, g'.id = g.id →
      g'.scan u = (.ok [], u)
  asAlone : g.scan w = (g.relisting fun project => (lister project).runAlone).scan w
  ends : g.isScanning (g.scan w).2 = (.ok false, (g.scan w).2)
  next : ∀ v, v.scanning = (g.scan w).2.scanning → g.scan v = g.scanInFull v
  covers : ∀ v results v', g.scanInFull v = (.ok results, v') →
    results.map ScanResult.project = g.settings.projects

/-- **A scan is not disturbed by scans that its lister asks for.** -/
theorem isSingleFlight (hg : g.LeavesScans)
    (hlister : ∀ project, g.collaborators.listIssues project = (lister project).run g.scan)
    (hidle : g.id ∉ w.scanning) : g.IsSingleFlight lister w := by
  have hf (project : Value) : (lister project).runAlone.Keeps World.SameScans :=
    (lister project).runAlone_sameScans
  have hlist (project : Value) (w : World ω) (h : g.id ∈ w.scanning) :
      g.collaborators.listIssues project w = (lister project).runAlone w := by
    rw [hlister, run_eq_runAlone _ h]
  have hsame : (g.scan w).2.scanning = w.scanning := hg.scan_sameScans hf hlist w
  refine ⟨fun before project after results v _ hbefore u hu g' hid => ?_,
    hg.scan_relisting hf hlist w, ?_, fun v hv => ?_, fun _ _ _ h => map_project_of_scanInFull h⟩
  · have hunderway : g.id ∈ v.scanning := by
      have hstays := hg.projects_sameScans hf hlist before (hg.mem_scanning_outset w)
      rw [hbefore] at hstays
      exact hstays ▸ hg.mem_scanning_outset w
    refine scan_of_underway ?_
    rw [hid]
    exact mem_scanning_of_mem_calls (lister project) hunderway u hu
  · have hnot : (g.scan w).2.scanning.contains g.id = false := by
      rw [hsame]
      simpa using hidle
    rw [← hnot]
    rfl
  · refine scan_of_not_underway ?_
    rw [hv, hsame]
    exact hidle

/-- A governor whose lister asks that very governor for scans. -/
def reentrant (g : Governor ω) (lister : Value → Listing ω) : Governor ω :=
  g.relisting fun project =>
    (lister project).run (g.relisting fun project => (lister project).runAlone).scan

/-- The scans that such a lister asks for are those of its governor. -/
lemma listIssues_reentrant (hg : g.LeavesScans) (lister : Value → Listing ω) (project : Value) :
    (g.reentrant lister).collaborators.listIssues project =
      (lister project).run (g.reentrant lister).scan := by
  have hscan : (g.relisting fun project => (lister project).runAlone).scan =
      (g.reentrant lister).scan := by
    have hleaves : (g.reentrant lister).LeavesScans := hg.relisting _
    funext w
    refine (hleaves.scan_relisting (fun project => (lister project).runAlone_sameScans)
      (fun project w h => ?_) w).symm
    exact run_eq_runAlone (g := g.relisting fun project => (lister project).runAlone) _ h
  rw [← hscan]
  rfl

/-- Collaborators that do what they are told leave alone which scans are under way. -/
lemma leavesScans_capped (projects : List String) (cap : Int)
    (issues : Value → Except Fault (List Issue))
    (priority : String → Except Fault (Option OverridePriority))
    (outcome : String → Except Fault Unit) :
    (Governor.capped projects cap (.given issues priority outcome)).LeavesScans where
  answers issueId :=
    { hasActiveSession := .pure false
      isWithinCooldown := .pure false
      isParentIssue := .pure false
      isHeld := .pure false
      overridePriority := .ofExcept (priority issueId)
      strategy := .pure none
      isResearchCompleted := .pure false
      isBacklogCreationCompleted := .pure false }
  dispatch issue _ _ := (Run.Keeps.ofExcept (outcome issue.id)).bind fun _ _ => rfl
  onScanComplete _ := .pure ()
  onError _ := .pure ()

/-- A lister that asks for two scans in one project and then fails, and asks for one in every other
project before it shows an issue. -/
def insistentLister : Value → Listing ω
  | .str "p" => .rescan fun _ => .rescan fun _ => .answer (.error (.wrongKind "no tracker"))
  | _ => .rescan fun _ => .answer (.ok (some [.inBacklog "a"]))

/-- A governor of two projects with this lister. -/
theorem isSingleFlight_insistent :
    let g := (Governor.capped ["p", "q"] 3 (.given (fun _ => .ok []) (fun _ => .ok none)
      fun _ => .ok ())).reentrant insistentLister
    g.LeavesScans ∧
      (∀ project,
        g.collaborators.listIssues project = (insistentLister project).run g.scan) ∧
      g.id ∉ World.unnoted.scanning ∧ g.IsSingleFlight insistentLister .unnoted := by
  intro g
  have hcapped := leavesScans_capped ["p", "q"] 3 (fun _ => .ok []) (fun _ => .ok none)
    fun _ => .ok ()
  have hg : g.LeavesScans := hcapped.relisting _
  have hlister := listIssues_reentrant hcapped insistentLister
  have hidle : g.id ∉ World.unnoted.scanning := List.not_mem_nil
  exact ⟨hg, hlister, hidle, isSingleFlight hg hlister hidle⟩

end Governor

end IssueDispatch
