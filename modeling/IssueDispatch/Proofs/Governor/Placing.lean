import IssueDispatch.Proofs.Governor.Moves
import IssueDispatch.Proofs.Governor.Ranking
import IssueDispatch.Proofs.Governor.Verdict

/-!
# Placing sessions

The dispatch of an issue places a session exactly if the issue is idle and has a prompt.  If a list
of actionable issues is dispatched, sessions are thus placed for the entries that get through
(`Actionable.admitted`), as far as the cap allows, and a scan of a project is the evaluation of all
its issues followed by that.
-/

namespace IssueDispatch

variable {ω : Type}

/-- Whether there is a prompt for what an issue calls for. -/
def Tracker.Steady.hasPrompt {t : Tracker ω} (steady : t.Steady) (a : Actionable) : Bool :=
  match a.decision with
  | .skip _ => false
  | .dispatch _ workType _ => (steady.promptFor a.issue workType.name).toBool

/-- The issues that are listed for a project. -/
def Tracker.Steady.issuesOf {t : Tracker ω} (steady : t.Steady) (project : Value) : List Issue :=
  match steady.listing project with
  | .error _ => []
  | .ok issues => issues

/-- What the session of an actionable issue is for. -/
def Actionable.errand (a : Actionable) : Errand :=
  (a.issue.id, a.decision.workType?.map WorkType.name, some a.rank)

/-- Sessions that have been placed for some entries are for their issues. -/
lemma Placement.any_issue_of_errand {ps : List Placement} {as : List Actionable}
    (h : (ps.map errand).Perm (as.map Actionable.errand)) (id : String) :
    (ps.any fun p => id == p.issue.id) = as.any fun a => id == a.issue.id := by
  have hany := h.any_eq (f := fun x : Errand => id == x.1)
  rwa [List.any_map, List.any_map] at hany

namespace StoreBacked

variable {b : StoreBacked ω} {steady : b.tracker.Steady} {w : World ω}

/-- A dispatch takes a new session id, reads the override of the issue, and places a session if
there is a prompt. -/
lemma dispatch_eq_place (hready : w.IsReady steady) (issue : Issue) (workType : String) :
    ∃ sessionId v, w.Advances steady [issue.id] [] v ∧ steady.Unused w.outside sessionId ∧
      ¬ steady.Unused v.outside sessionId ∧
      b.dispatch issue workType w = match steady.promptFor issue workType with
        | .error e => (.error e, v)
        | .ok prompt =>
          place issue workType sessionId (b.rankInForce w issue.id) prompt v.clock v := by
  obtain ⟨sessionId, v₁, hid, hused, hnew, htaken⟩ := steady.newSessionId w
  have h₁ : w.Advances steady [] [] v₁ := .of_usesUp hused
  obtain ⟨v₂, hpriority, h₂⟩ := tells_priority h₁ hready issue.id
  have hrank : b.workPriority issue.id v₁ = (.ok (b.rankInForce w issue.id), v₂) :=
    Run.bind_of_ok hpriority
  obtain ⟨v, hprompt, hused⟩ := steady.prompt issue workType v₂
  have h₃ : v₂.Advances steady [] [] v := .of_usesUp hused
  refine ⟨sessionId, v, ((h₁.trans h₂).trans h₃), hnew, fun h => ?_, ?_⟩
  · exact htaken (h₂.unused _ (h₃.unused _ h).1).1
  · rw [dispatch_eq, Run.bind_of_ok hid, Run.bind_of_ok hrank, Run.bind_of_ok (World.now_apply v₂)]
    rcases hanswer : steady.promptFor issue workType with e | prompt <;> rw [hanswer] at hprompt
    · exact Run.bind_of_error hprompt
    · rw [Run.bind_of_ok hprompt, h₃.clock]

/-- The dispatch of an idle issue that has a prompt places a session at the rank in force. -/
lemma dispatch_of_idle (hready : w.IsReady steady) {issue : Issue} {workType : String}
    (hidle : w.store.isBusy issue.id = false)
    (hprompt : (steady.promptFor issue workType).toBool = true) :
    ∃ p w', b.dispatch issue workType w = (.ok (), w') ∧ w.Advances steady [issue.id] [p] w' ∧
      p.issue = issue ∧ p.workType = workType ∧ p.rank = b.rankInForce w issue.id := by
  obtain ⟨sessionId, v, hv, hnew, htaken, hdispatch⟩ :=
    dispatch_eq_place hready issue workType
  have hready' := hv.isReady hready
  have hidle' : v.store.isBusy issue.id = false := by
    rw [hv.isBusy, hidle]
    rfl
  obtain ⟨hsession, hqueue⟩ := hready.fresh sessionId hnew
  rcases hanswer : steady.promptFor issue workType with e | prompt <;> rw [hanswer] at hprompt
  · cases hprompt
  rw [hanswer] at hdispatch
  let p : Placement :=
    { issue, workType, sessionId, rank := b.rankInForce w issue.id, prompt }
  have hsession' : v.store.findSession sessionId = none := by
    rw [Store.findSession, hv.sessions, List.map_nil, List.append_nil]
    exact hsession
  have hqueue' : v.store.hasQueued sessionId = false := by
    rw [Store.hasQueued, hv.queue, List.map_nil, List.append_nil]
    exact hqueue
  have hrank : Store.IsStorable p.rank := OverridePriority.isStorable_rank _
  have hplace : place issue workType sessionId p.rank prompt v.clock v = _ :=
    place_of_idle (Store.has_of_missing hready'.missing _) hready'.clock hrank hidle' hsession'
      hqueue'
  have hplaced : v.Advances steady [] [p] { v with
      store := (v.store.withSession (p.session v.clock)).withWork (p.work v.clock) } := by
    refine ⟨rfl, rfl, rfl, rfl, rfl, rfl, rfl, rfl, fun shelf => ?_, fun id hid => ⟨hid, ?_⟩⟩
    · rw [OverrideShelf.afterReading_nil, ite_self]
      cases shelf <;> rfl
    · rintro p' hp' rfl
      rw [List.mem_singleton.1 hp'] at hid
      exact htaken hid
  exact ⟨p, _, hdispatch.trans hplace, hv.trans hplaced, rfl, rfl, rfl⟩

/-- The dispatch of an issue that is busy or has no prompt fails without a trace. -/
lemma dispatch_of_not_idle (hready : w.IsReady steady) {issue : Issue} {workType : String}
    (hrefused : w.store.isBusy issue.id = true ∨
      (steady.promptFor issue workType).toBool = false) :
    ∃ e w', b.dispatch issue workType w = (.error e, w') ∧ w.Advances steady [issue.id] [] w' := by
  obtain ⟨sessionId, v, hv, -, -, hdispatch⟩ := dispatch_eq_place hready issue workType
  have hready' := hv.isReady hready
  rcases hanswer : steady.promptFor issue workType with e | prompt <;> rw [hanswer] at hdispatch
  · exact ⟨e, v, hdispatch, hv⟩
  · have hbusy : v.store.isBusy issue.id = true := by
      rw [hv.isBusy, hrefused.resolve_right (by simp [hanswer, Except.toBool])]
      rfl
    exact ⟨_, v, hdispatch.trans (place_of_busy
      (Store.has_of_missing hready'.missing _) hbusy), hv⟩

end StoreBacked

/-- The result of a scan that has left issues out because the cap was reached. -/
def ScanResult.HitsLimit (r : ScanResult) : Prop :=
  ∃ entry ∈ r.skippedReasons, entry.2 = .dispatchLimit

instance (r : ScanResult) : Decidable r.HitsLimit :=
  inferInstanceAs (Decidable (∃ entry ∈ r.skippedReasons, entry.2 = .dispatchLimit))

lemma ScanResult.hitsLimit_skip (r : ScanResult) (identifier : String) :
    (r.skip identifier .dispatchLimit).HitsLimit := by
  have hmem (entries : List (String × SkipReason)) :
      (identifier, .dispatchLimit) ∈ addReason identifier .dispatchLimit entries := by
    induction entries with
    | nil => simp [addReason]
    | cons entry rest ih =>
      rw [addReason]
      split
      · exact List.mem_cons_self
      · exact List.mem_cons_of_mem _ ih
  exact ⟨_, hmem r.skippedReasons, rfl⟩

/-- An issue with a decision to act and the priority that is in force. -/
structure Actionable.Reflects (a : Actionable) (b : StoreBacked ω) (w : World ω) : Prop where
  acts : a.decision.isActionable = true
  priority : a.priority = (b.shelf.inForce w a.issue.id).bind Override.priority?

lemma Actionable.Reflects.of_advances {a : Actionable} {b : StoreBacked ω}
    {steady : b.tracker.Steady} {w w' : World ω} {ids : List String} {ps : List Placement}
    (ha : a.Reflects b w) (h : w.Advances steady ids ps w') : a.Reflects b w' :=
  ⟨ha.acts, ha.priority.trans (by rw [h.inForce])⟩

/-- Actionable issues have been dispatched: sessions have been placed for the first of some entries,
as many as there is room for, and only overrides of some issues have been read.  If no entry has
been left out because the cap was reached, all of them have got their sessions. -/
def World.Places {b : StoreBacked ω} (steady : b.tracker.Steady) (w : World ω) (ids : List String)
    (entries : List Actionable) (room : Nat) (result : Except Fault ScanResult × World ω) : Prop :=
  ∃ r ids' ps w', result = (.ok r, w') ∧ w.Advances steady ids' ps w' ∧ (∀ id ∈ ids', id ∈ ids) ∧
    ps.map Placement.errand = (entries.take room).map Actionable.errand ∧
    (¬ r.HitsLimit → ps.map Placement.errand = entries.map Actionable.errand)

namespace World.Places

variable {b : StoreBacked ω} {steady : b.tracker.Steady} {w v : World ω} {ids : List String}
  {entries : List Actionable} {room : Nat} {result : Except Fault ScanResult × World ω}
  {a : Actionable}

/-- A dispatch that has failed comes first. -/
lemma after (hv : w.Advances steady [a.issue.id] [] v)
    (h : v.Places steady ids entries room result) :
    w.Places steady (a.issue.id :: ids) entries room result := by
  obtain ⟨r, ids', ps, w', hresult, hadvances, hids, htake, hwhole⟩ := h
  refine ⟨r, _, _, w', hresult, hv.trans hadvances, ?_, htake, hwhole⟩
  exact List.forall_mem_cons.2 ⟨List.mem_cons_self, fun id hid =>
    List.mem_cons_of_mem _ (hids id hid)⟩

/-- A session has been placed first. -/
lemma cons {p : Placement} (hv : w.Advances steady [a.issue.id] [p] v)
    (herrand : p.errand = a.errand) (h : v.Places steady ids entries room result) :
    w.Places steady (a.issue.id :: ids) (a :: entries) (room + 1) result := by
  obtain ⟨r, ids', ps, w', hresult, hadvances, hids, htake, hwhole⟩ := h
  refine ⟨r, _, _, w', hresult, hv.trans hadvances, ?_, ?_, fun hnot => ?_⟩
  · exact List.forall_mem_cons.2 ⟨List.mem_cons_self, fun id hid =>
      List.mem_cons_of_mem _ (hids id hid)⟩
  · rw [List.take_succ_cons, List.map_cons, ← htake, ← herrand]
    rfl
  · rw [List.map_cons, ← hwhole hnot, ← herrand]
    rfl

end World.Places

namespace Governor

variable {g : Governor ω} {b : StoreBacked ω} {steady : b.tracker.Steady} {w : World ω}
  {a : Actionable} (hcollaborators : g.collaborators = b.collaborators)

include hcollaborators

/-- An actionable issue that is idle and has a prompt gets its session. -/
lemma dispatch_of_admitted (hready : w.IsReady steady) (ha : a.Reflects b w)
    (hidle : w.store.isBusy a.issue.id = false) (hprompt : steady.hasPrompt a = true) :
    ∃ p w', g.dispatch a.issue a.decision w = (.ok (), w') ∧
      w.Advances steady [a.issue.id] [p] w' ∧ p.errand = a.errand := by
  obtain ⟨issue, decision, priority⟩ := a
  cases decision with
  | skip reason => cases hprompt
  | dispatch action workType reason =>
    obtain ⟨p, w', hdispatch, hadvances, hissue, hworkType, hrank⟩ :=
      StoreBacked.dispatch_of_idle hready hidle hprompt
    refine ⟨p, w', ?_, hadvances, ?_⟩
    · rw [dispatch, hcollaborators]
      exact hdispatch
    · have hpriority : OverridePriority.rank priority = b.rankInForce w issue.id :=
        congrArg OverridePriority.rank ha.priority
      rw [Placement.errand, hissue, hworkType, hrank, ← hpriority]
      rfl

/-- The dispatch of any other actionable issue fails and places nothing. -/
lemma dispatch_of_not_admitted (hready : w.IsReady steady) (ha : a.Reflects b w)
    (hrefused : ¬ ((!w.store.isBusy a.issue.id && steady.hasPrompt a) = true)) :
    ∃ e w', g.dispatch a.issue a.decision w = (.error e, w') ∧
      w.Advances steady [a.issue.id] [] w' := by
  obtain ⟨issue, decision, priority⟩ := a
  cases decision with
  | skip reason => cases ha.acts
  | dispatch action workType reason =>
    have hcases : w.store.isBusy issue.id = true ∨
        (steady.promptFor issue workType.name).toBool = false := by
      simpa [Tracker.Steady.hasPrompt, imp_iff_not_or] using hrefused
    obtain ⟨e, w', hdispatch, hadvances⟩ := StoreBacked.dispatch_of_not_idle hready hcases
    refine ⟨e, w', ?_, hadvances⟩
    rw [dispatch, hcollaborators]
    exact hdispatch

omit hcollaborators in
/-- Once the cap is reached, the rest of a list is left out. -/
lemma dispatchAll_of_reached (as : List Actionable) {r : ScanResult}
    (hreached : g.settings.maxConcurrentDispatches ≤ (r.actionsDispatched : Int)) (w : World ω) :
    ∃ r', g.dispatchAll as r w = (.ok r', w) ∧ (as ≠ [] ∨ r.HitsLimit → r'.HitsLimit) := by
  induction as generalizing r with
  | nil => exact ⟨r, rfl, fun h => h.resolve_left fun hne => hne rfl⟩
  | cons a rest ih =>
    obtain ⟨r', hrest, hlimit⟩ := ih (r := r.skip a.issue.identifier .dispatchLimit) hreached
    refine ⟨r', ?_, fun _ => hlimit (.inr (r.hitsLimit_skip _))⟩
    rw [dispatchAll, if_pos hreached, hrest]

/-- Dispatching a list places sessions for its entries that get through, until the cap is
reached. -/
lemma dispatchAll_places (hready : w.IsReady steady) {as : List Actionable}
    (has : ∀ a ∈ as, a.Reflects b w) (r : ScanResult) :
    w.Places steady (as.map fun a => a.issue.id)
      (Actionable.admitted steady.hasPrompt w.store.isBusy as)
      (g.settings.maxConcurrentDispatches - r.actionsDispatched).toNat (g.dispatchAll as r w) := by
  induction as generalizing w r with
  | nil => exact ⟨r, [], [], w, rfl, .refl w, nofun, by simp [Actionable.admitted], fun _ => rfl⟩
  | cons a rest ih =>
    obtain ⟨ha, hrest⟩ := List.forall_mem_cons.1 has
    by_cases hreached : g.settings.maxConcurrentDispatches ≤ (r.actionsDispatched : Int)
    · obtain ⟨r', hdispatch, hlimit⟩ :=
        dispatchAll_of_reached (g := g) (a :: rest) hreached w
      have hroom : (g.settings.maxConcurrentDispatches - r.actionsDispatched).toNat = 0 := by omega
      refine ⟨r', [], [], w, hdispatch, .refl w, nofun, by simp [hroom], fun hnot => ?_⟩
      exact absurd (hlimit (.inl (List.cons_ne_nil a rest))) hnot
    rw [dispatchAll, if_neg hreached, Run.bind_of_ok (Run.attempt_apply _ w),
      Actionable.admitted]
    by_cases hadmitted : (!w.store.isBusy a.issue.id && steady.hasPrompt a) = true
    · rw [if_pos hadmitted]
      rw [Bool.and_eq_true, Bool.not_eq_true'] at hadmitted
      obtain ⟨p, v, hdispatch, hv, herrand⟩ :=
        dispatch_of_admitted hcollaborators hready ha hadmitted.1 hadmitted.2
      have hissue : p.issue.id = a.issue.id := congrArg Prod.fst herrand
      have hbusy : v.store.isBusy = fun id => w.store.isBusy id || id == a.issue.id := by
        funext id
        rw [hv.isBusy, List.any_cons, List.any_nil, Bool.or_false, hissue]
      have hroom : (g.settings.maxConcurrentDispatches - r.actionsDispatched).toNat =
          (g.settings.maxConcurrentDispatches - r.dispatched.actionsDispatched).toNat + 1 := by
        simp only [ScanResult.dispatched]
        omega
      rw [hdispatch, hroom, ← hbusy]
      exact (ih (hv.isReady hready) (fun x hx => (hrest x hx).of_advances hv) _).cons hv herrand
    · rw [if_neg hadmitted]
      obtain ⟨e, v, hdispatch, hv⟩ := dispatch_of_not_admitted hcollaborators hready ha hadmitted
      have hbusy : v.store.isBusy = w.store.isBusy := by
        funext id
        rw [hv.isBusy, List.any_nil, Bool.or_false]
      have hgoesOn := ih (hv.isReady hready) fun x hx => (hrest x hx).of_advances hv
      rw [hdispatch, ← hbusy]
      cases e with
      | issueBusy => exact (hgoesOn _).after hv
      | _ => exact (hgoesOn _).after hv

/-! ## All issues of a project -/

/-- What calls for an action does so with the priority in force, and its issue is idle. -/
lemma of_mem_actionables (hready : w.IsReady steady) {issues : List Issue}
    (ha : a ∈ g.actionables w issues) :
    a.issue ∈ issues ∧ a.Reflects b w ∧ w.store.isBusy a.issue.id = false := by
  obtain ⟨issue, hissue, hactionable⟩ := List.mem_filterMap.1 ha
  obtain ⟨rfl, hacts, hpriority, hidle⟩ :=
    of_actionable?_eq_some hcollaborators hready hactionable
  exact ⟨hissue, ⟨hacts, hpriority⟩, hidle⟩

/-- Reading overrides does not change what issues call for. -/
lemma actionables_of_reading (hready : w.IsReady steady) {ids : List String} {w' : World ω}
    (h : w.Advances steady ids [] w') (issues : List Issue) :
    g.actionables w' issues = g.actionables w issues := by
  rw [actionables_of_advances hcollaborators hready h, List.filter_eq_self]
  intro a ha
  rw [h.isBusy, (of_mem_actionables hcollaborators hready ha).2.2]
  rfl

/-- What issues call for depends on the clock, the store and the overrides. -/
lemma actionables_of_sameStore {w' : World ω} (hready : w.IsReady steady)
    (hready' : w'.IsReady steady) (hclock : w'.clock = w.clock) (hstore : w'.store = w.store)
    (hoverrides : w'.overrides = w.overrides) (issues : List Issue) :
    g.actionables w' issues = g.actionables w issues := by
  have hinForce (issueId : String) : b.shelf.inForce w' issueId = b.shelf.inForce w issueId := by
    rw [OverrideShelf.inForce, OverrideShelf.inForce, hclock]
    cases b.shelf with
    | shared => rw [OverrideShelf.kept, OverrideShelf.kept, hstore]
    | inProcess => rw [OverrideShelf.kept, OverrideShelf.kept, hoverrides]
  refine List.filterMap_congr fun issue _ => ?_
  rw [actionable?, actionable?, verdict_congr hcollaborators hready hready' hclock]
  · rw [hstore]
  · rw [hstore]
  · rw [hstore]
  · exact hinForce issue.id
  · rw [hstore]

lemma evaluate_eq_verdict (hready : w.IsReady steady) (issue : Issue) :
    w.Tells steady (g.evaluate issue) [issue.id] (g.verdict w issue) := by
  rw [verdict_eq hcollaborators hready]
  exact tells_evaluate hcollaborators hready issue

/-- Evaluating a list gives the issues that call for an action, in the order of the list. -/
lemma evaluateAll_eq (hready : w.IsReady steady) (issues : List Issue) (r : ScanResult) :
    ∃ r' w', g.evaluateAll issues r w = (.ok (g.actionables w issues, r'), w') ∧
      w.Advances steady (issues.map Issue.id) [] w' ∧
      r'.actionsDispatched = r.actionsDispatched := by
  induction issues generalizing w r with
  | nil => exact ⟨r, w, rfl, .refl w, rfl⟩
  | cons issue rest ih =>
    obtain ⟨v, hevaluate, hv⟩ := evaluate_eq_verdict hcollaborators hready issue
    have hrest (r₁ : ScanResult) : ∃ r' w',
        g.evaluateAll rest r₁ v = (.ok (g.actionables w rest, r'), w') ∧
          w.Advances steady ((issue :: rest).map Issue.id) [] w' ∧
          r'.actionsDispatched = r₁.actionsDispatched := by
      obtain ⟨r', w', hall, hadvances, hcount⟩ := ih (hv.isReady hready) r₁
      rw [actionables_of_reading hcollaborators hready hv] at hall
      exact ⟨r', w', hall, hv.trans hadvances, hcount⟩
    rw [evaluateAll, Run.bind_of_ok (Run.attempt_apply _ w), hevaluate, actionables,
      List.filterMap_cons, actionable?]
    cases g.verdict w issue with
    | error fault => exact hrest _
    | ok decided =>
      obtain ⟨decision, priority⟩ := decided
      cases decision with
      | skip reason => exact hrest _
      | dispatch action workType reason =>
        obtain ⟨r', w', hall, hadvances, hcount⟩ := hrest r
        exact ⟨r', w', Run.bind_of_ok hall, hadvances, hcount⟩

omit hcollaborators in
/-- The entries of a project for which sessions would be placed if there were no cap. -/
def entries (g : Governor ω) {b : StoreBacked ω} (steady : b.tracker.Steady) (w : World ω)
    (project : Value) : List Actionable :=
  Actionable.admitted steady.hasPrompt w.store.isBusy
    (Actionable.byRank (g.actionables w (steady.issuesOf project)))

/-- The scan of a project reads the overrides of its issues and places sessions for its entries, in
the order of their ranks, until the cap is reached. -/
lemma scanProject_eq (hready : w.IsReady steady) (project : Value) :
    ∃ r ids ps w', g.scanProject project w = (.ok r, w') ∧ w.Advances steady ids ps w' ∧
      (∀ id, id ∈ ids ↔ id ∈ (steady.issuesOf project).map Issue.id) ∧
      ps.map Placement.errand =
        ((g.entries steady w project).take g.settings.maxConcurrentDispatches.toNat).map
          Actionable.errand ∧
      (¬ r.HitsLimit →
        ps.map Placement.errand = (g.entries steady w project).map Actionable.errand) := by
  obtain ⟨v, hlist, hused⟩ := steady.listIssues project w
  have hv : w.Advances steady [] [] v := .of_usesUp hused
  have hlisted : g.collaborators.listIssues project w = ((steady.listing project).map some, v) := by
    rw [hcollaborators]
    exact hlist
  rw [scanProject, Run.bind_of_ok (Run.attempt_apply _ w), hlisted, entries,
    Tracker.Steady.issuesOf]
  rcases steady.listing project with fault | issues
  · exact ⟨_, [], [], v, rfl, hv, by simp, by simp [actionables, Actionable.admitted],
      fun _ => rfl⟩
  · obtain ⟨r, u, hevaluate, hu, hcount⟩ := evaluateAll_eq hcollaborators (hv.isReady hready) issues
      { project, scannedIssues := issues.length }
    rw [actionables_of_reading hcollaborators hready hv] at hevaluate
    have hu := hv.trans hu
    have hbusy : u.store.isBusy = w.store.isBusy := by
      funext id
      rw [hu.isBusy, List.any_append, List.any_nil, Bool.or_false, Bool.or_false]
    have hreflects : ∀ a ∈ (g.actionables w issues).mergeSort Actionable.rankLe,
        a.Reflects b u := fun a ha =>
      (of_mem_actionables hcollaborators hready (List.mem_mergeSort.1 ha)).2.1.of_advances hu
    obtain ⟨r', ids, ps, w', hall, hadvances, hids, htake, hwhole⟩ :=
      dispatchAll_places hcollaborators (hu.isReady hready) hreflects r
    rw [hbusy, Actionable.mergeSort_eq_byRank] at htake hwhole
    rw [hcount, Int.ofNat_zero, Int.sub_zero] at htake
    refine ⟨r', _, _, w', (Run.bind_of_ok hevaluate).trans hall, hu.trans hadvances, fun id => ?_,
      htake, hwhole⟩
    rw [List.nil_append, List.mem_append, or_iff_left_iff_imp]
    intro hid
    obtain ⟨a, ha, rfl⟩ := List.mem_map.1 (hids id hid)
    exact List.mem_map_of_mem
      (of_mem_actionables hcollaborators hready (List.mem_mergeSort.1 ha)).1

end Governor

end IssueDispatch
