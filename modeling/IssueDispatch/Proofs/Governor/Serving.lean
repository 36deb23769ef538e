import IssueDispatch.Proofs.Governor.Placing

/-!
# Serving a list of issues

Without a cap, a list of issues is served in one of two ways: all issues are evaluated and then
those that call for an action are dispatched by their ranks, or each issue is dispatched as soon as
it has been evaluated.  Either way a session is placed for the first entry of each issue that gets
through (`Governor.due`), as dispatching one issue does not change what another one calls for.
`Governor.Serves` says so, and passes from the parts of a list to the whole.
-/

namespace IssueDispatch

variable {ω : Type}

namespace Governor

variable {g : Governor ω} {b : StoreBacked ω} {steady : b.tracker.Steady} {w v w' : World ω}
  {issues rest : List Issue}

/-- The entries of a list of issues for which sessions are placed if each of them is dispatched as
soon as it has been evaluated. -/
def due (g : Governor ω) {b : StoreBacked ω} (steady : b.tracker.Steady) (w : World ω)
    (issues : List Issue) : List Actionable :=
  Actionable.admitted steady.hasPrompt w.store.isBusy (g.actionables w issues)

/-- Sessions have been placed for the entries of a list that were due, in whatever order, the
overrides of its issues have been read, and nothing else has changed. -/
def Serves (g : Governor ω) {b : StoreBacked ω} (steady : b.tracker.Steady) (w : World ω)
    (issues : List Issue) (w' : World ω) : Prop :=
  ∃ ids ps, w.Advances steady ids ps w' ∧ (∀ id, id ∈ ids ↔ id ∈ issues.map Issue.id) ∧
    (ps.map Placement.errand).Perm ((g.due steady w issues).map Actionable.errand)

section

variable (hcollaborators : g.collaborators = b.collaborators)

include hcollaborators

omit hcollaborators in
lemma due_singleton_of_none {issue : Issue} (h : g.actionable? w issue = none) :
    g.due steady w [issue] = [] := by
  rw [due, actionables, List.filterMap_cons_none h]
  rfl

omit hcollaborators in
lemma due_singleton_of_some {issue : Issue} {a : Actionable} (h : g.actionable? w issue = some a) :
    g.due steady w [issue] =
      if !w.store.isBusy a.issue.id && steady.hasPrompt a then [a] else [] := by
  rw [due, actionables, List.filterMap_cons_some h]
  rfl

/-- What is due of a list does not depend on which overrides have been read. -/
lemma due_of_reading (hready : w.IsReady steady) {ids : List String}
    (h : w.Advances steady ids [] v) (issues : List Issue) :
    g.due steady v issues = g.due steady w issues := by
  have hbusy : v.store.isBusy = w.store.isBusy := by
    funext id
    rw [h.isBusy, List.any_nil, Bool.or_false]
  rw [due, actionables_of_reading hcollaborators hready h, hbusy, due]

/-- What is due of a list goes on with what is due of its rest once its beginning is served. -/
lemma due_append (hready : w.IsReady steady) {ids : List String} {ps : List Placement}
    (h : w.Advances steady ids ps v)
    (hps : (ps.map Placement.errand).Perm ((g.due steady w issues).map Actionable.errand))
    (rest : List Issue) :
    g.due steady w (issues ++ rest) = g.due steady w issues ++ g.due steady v rest := by
  have hbusy : v.store.isBusy = fun id =>
      w.store.isBusy id || (g.due steady w issues).any fun a => id == a.issue.id := by
    funext id
    rw [h.isBusy, Placement.any_issue_of_errand hps]
  have hfiltered : g.due steady v rest =
      Actionable.admitted steady.hasPrompt v.store.isBusy (g.actionables w rest) := by
    rw [due, actionables_of_advances hcollaborators hready h]
    refine Actionable.admitted_filter fun a _ hdropped => ?_
    rwa [Bool.not_eq_false'] at hdropped
  rw [hfiltered, hbusy, due, actionables, List.filterMap_append, Actionable.admitted_append]
  rfl

/-- Sorted by rank or not, the same entries of a project are due. -/
lemma entries_perm_due (hready : w.IsReady steady) (project : Value) :
    (g.entries steady w project).Perm (g.due steady w (steady.issuesOf project)) := by
  rw [entries, due, ← Actionable.mergeSort_eq_byRank]
  refine Actionable.admitted_mergeSort_perm fun a ha a' ha' hissue => ?_
  have hpriority := (of_mem_actionables hcollaborators hready ha).2.1.priority
  have hpriority' := (of_mem_actionables hcollaborators hready ha').2.1.priority
  rw [Actionable.rank, hpriority, hissue, ← hpriority', Actionable.rank]

end

namespace Serves

lemma nil (g : Governor ω) (steady : b.tracker.Steady) (w : World ω) : g.Serves steady w [] w :=
  ⟨[], [], .refl w, fun _ => Iff.rfl, .refl _⟩

lemma isReady (h : g.Serves steady w issues w') (hready : w.IsReady steady) :
    w'.IsReady steady := by
  obtain ⟨ids, ps, hadvances, -, -⟩ := h
  exact hadvances.isReady hready

/-- Nothing that happens afterwards, but more service, matters. -/
lemma before (h : g.Serves steady w issues v) (hv : v.Advances steady [] [] w') :
    g.Serves steady w issues w' := by
  obtain ⟨ids, ps, hadvances, hids, hps⟩ := h
  refine ⟨ids, ps, ?_, hids, hps⟩
  have := hadvances.trans hv
  rwa [List.append_nil, List.append_nil] at this

section

variable (hcollaborators : g.collaborators = b.collaborators)

include hcollaborators

/-- The rest of a list is served after its beginning. -/
lemma append (hready : w.IsReady steady) (h : g.Serves steady w issues v)
    (h' : g.Serves steady v rest w') : g.Serves steady w (issues ++ rest) w' := by
  obtain ⟨ids, ps, hadvances, hids, hps⟩ := h
  obtain ⟨ids', ps', hadvances', hids', hps'⟩ := h'
  refine ⟨_, _, hadvances.trans hadvances', fun id => ?_, ?_⟩
  · rw [List.mem_append, hids, hids', List.map_append, List.mem_append]
  · rw [due_append hcollaborators hready hadvances hps, List.map_append, List.map_append]
    exact hps.append hps'

/-- Nothing that happened before, but more service, matters. -/
lemma after (hready : w.IsReady steady) (hv : w.Advances steady [] [] v)
    (h : g.Serves steady v issues w') : g.Serves steady w issues w' := by
  obtain ⟨ids, ps, hadvances, hids, hps⟩ := h
  rw [due_of_reading hcollaborators hready hv] at hps
  exact ⟨ids, ps, hv.trans hadvances, hids, hps⟩

end

end Serves

/-! ## Projects after projects -/

/-- Unless the cap keeps issues out, scanning projects one after the other serves all their
issues. -/
lemma mapM_scanProject_serves (hcollaborators : g.collaborators = b.collaborators)
    (hready : w.IsReady steady) (projects : List Value) :
    ∃ results w', projects.mapM g.scanProject w = (.ok results, w') ∧
      ((∀ r ∈ results, ¬ r.HitsLimit) →
        g.Serves steady w (projects.flatMap steady.issuesOf) w') := by
  induction projects generalizing w with
  | nil => exact ⟨[], w, rfl, fun _ => .nil g steady w⟩
  | cons project projects ih =>
    obtain ⟨r, ids, ps, v, hscan, hv, hids, -, hwhole⟩ :=
      scanProject_eq hcollaborators hready project
    obtain ⟨results, w', hall, hserves⟩ := ih (hv.isReady hready)
    refine ⟨r :: results, w', ?_, fun hlimits => ?_⟩
    · rw [List.mapM_cons, Run.bind_of_ok hscan, Run.bind_of_ok hall]
      rfl
    · obtain ⟨hlimit, hlimits⟩ := List.forall_mem_cons.1 hlimits
      have hfirst : g.Serves steady w (steady.issuesOf project) v := by
        refine ⟨ids, ps, hv, hids, ?_⟩
        rw [hwhole hlimit]
        exact (entries_perm_due hcollaborators hready project).map _
      exact hfirst.append hcollaborators hready (hserves hlimits)

/-! ## Issues after issues -/

/-- Looking at an issue serves it, whether it ends with a decision or with a fault. -/
lemma handle_serves (hcollaborators : g.collaborators = b.collaborators)
    (hready : w.IsReady steady) (issue : Issue) :
    g.Serves steady w [issue] (g.handle issue w).2 := by
  obtain ⟨v, hevaluate, hv⟩ := evaluate_eq_verdict hcollaborators hready issue
  -- If the issue calls for nothing, only its override has been read.
  have hskipped (hnone : g.actionable? w issue = none) : g.Serves steady w [issue] v := by
    refine ⟨[issue.id], [], hv, fun id => Iff.rfl, ?_⟩
    rw [due_singleton_of_none hnone]
    exact .refl _
  rw [handle]
  rcases hverdict : g.verdict w issue with fault | ⟨decision, priority⟩ <;>
    rw [hverdict] at hevaluate
  · rw [Run.bind_of_error hevaluate]
    exact hskipped (by rw [actionable?, hverdict])
  rw [Run.bind_of_ok hevaluate]
  cases decision with
  | skip reason => exact hskipped (by rw [actionable?, hverdict])
  | dispatch action workType reason =>
    let a : Actionable := { issue, decision := .dispatch action workType reason, priority }
    have ha : g.actionable? w issue = some a := by rw [actionable?, hverdict]
    obtain ⟨-, hacts, hpriority, -⟩ := of_actionable?_eq_some hcollaborators hready ha
    have hreflects : a.Reflects b v := Actionable.Reflects.of_advances ⟨hacts, hpriority⟩ hv
    have hbusy : v.store.isBusy issue.id = w.store.isBusy issue.id := by
      rw [hv.isBusy, List.any_nil, Bool.or_false]
    have hids (id : String) : id ∈ [issue.id] ++ [issue.id] ↔ id ∈ [issue].map Issue.id := by simp
    dsimp only
    rw [Run.bind_of_ok (Run.attempt_apply _ v)]
    by_cases hadmitted : (!w.store.isBusy issue.id && steady.hasPrompt a) = true
    · have hdue : g.due steady w [issue] = [a] :=
        (due_singleton_of_some ha).trans (if_pos hadmitted)
      rw [Bool.and_eq_true, Bool.not_eq_true'] at hadmitted
      obtain ⟨p, w', hdispatch, hadvances, herrand⟩ := dispatch_of_admitted hcollaborators
        (hv.isReady hready) hreflects (hbusy.trans hadmitted.1) hadmitted.2
      rw [hdispatch]
      refine ⟨_, _, hv.trans hadvances, hids, ?_⟩
      rw [hdue, List.nil_append, List.map_singleton, List.map_singleton, herrand]
    · have hdue : g.due steady w [issue] = [] :=
        (due_singleton_of_some ha).trans (if_neg hadmitted)
      obtain ⟨fault, w', hdispatch, hadvances⟩ := dispatch_of_not_admitted hcollaborators
        (hv.isReady hready) hreflects (by rw [hbusy]; exact hadmitted)
      have hserves : g.Serves steady w [issue] w' := by
        refine ⟨_, _, hv.trans hadvances, hids, ?_⟩
        rw [hdue]
        exact .refl _
      rw [hdispatch]
      cases fault <;> exact hserves

end Governor

end IssueDispatch
