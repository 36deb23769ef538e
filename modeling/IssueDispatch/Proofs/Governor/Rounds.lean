import IssueDispatch.Proofs.Governor.Scanning

/-!
# Scans take turns

A scan dispatches no more issues of a project than the cap allows.  The others have to wait, but
they do not wait for long: as long as nothing else happens, each scan takes up where the last one
has stopped, so that every issue that calls for an action in the first scan gets its session in the
order of the ranks.

One scan takes the first of `Governor.turns` and leaves the rest as they are, so the result is an
induction on the number of scans.
-/

namespace IssueDispatch

variable {ω : Type}

/-- If no issue stands in a list twice, leaving out those of its beginning leaves its end. -/
lemma Actionable.filter_not_take {as : List Actionable}
    (h : (as.map fun a => a.issue.id).Nodup) (m : Nat) :
    (as.filter fun a => !(as.take m).any fun x => a.issue.id == x.issue.id) = as.drop m := by
  induction as generalizing m with
  | nil => simp
  | cons a as ih =>
    rw [List.map_cons, List.nodup_cons] at h
    obtain ⟨hnew, hrest⟩ := h
    cases m with
    | zero => simp
    | succ m =>
      rw [List.take_succ_cons, List.drop_succ_cons, ← ih hrest m,
        List.filter_cons_of_neg (by simp)]
      refine List.filter_congr fun x hx => ?_
      have hne : x.issue.id ≠ a.issue.id := fun hissue => hnew (List.mem_map.2 ⟨x, hx, hissue⟩)
      rw [List.any_cons, beq_eq_false_iff_ne.2 hne, Bool.false_or]

namespace Governor

variable {g : Governor ω} {b : StoreBacked ω} {steady : b.tracker.Steady} {w w' : World ω}
  {issues : List Issue}

/-- If no issue is listed twice, none calls for an action twice. -/
lemma nodup_actionables (hcollaborators : g.collaborators = b.collaborators)
    (hready : w.IsReady steady) (hdistinct : (issues.map Issue.id).Nodup) :
    ((g.actionables w issues).map fun a => a.issue.id).Nodup := by
  have hsublist : ((g.actionables w issues).map fun a => a.issue).Sublist issues := by
    have hissues : ((g.actionables w issues).map fun a => a.issue) =
        issues.filter fun issue => (g.actionable? w issue).isSome := by
      rw [actionables, List.map_filterMap, ← List.filterMap_eq_filter]
      refine List.filterMap_congr fun issue _ => ?_
      cases ha : g.actionable? w issue with
      | none => simp [Option.guard, ha]
      | some a =>
        have hissue := (of_actionable?_eq_some hcollaborators hready ha).1
        simp [Option.guard, ha, hissue]
    rw [hissues]
    exact List.filter_sublist
  have := hdistinct.sublist (hsublist.map Issue.id)
  rwa [List.map_map] at this

/-- The entries of a list in the order in which they get their sessions. -/
def turns (g : Governor ω) {b : StoreBacked ω} (steady : b.tracker.Steady) (w : World ω)
    (issues : List Issue) : List Actionable :=
  (Actionable.byRank (g.actionables w issues)).filter steady.hasPrompt

lemma nodup_turns (hcollaborators : g.collaborators = b.collaborators)
    (hready : w.IsReady steady) (hdistinct : (issues.map Issue.id).Nodup) :
    ((g.turns steady w issues).map fun a => a.issue.id).Nodup := by
  have hranked : ((Actionable.byRank (g.actionables w issues)).map fun a => a.issue.id).Nodup :=
    ((Actionable.byRank_perm _).map _).nodup_iff.2
      (nodup_actionables hcollaborators hready hdistinct)
  exact hranked.sublist (List.filter_sublist.map _)

lemma mem_turns (hcollaborators : g.collaborators = b.collaborators)
    (hready : w.IsReady steady) {a : Actionable} (ha : a ∈ g.turns steady w issues) :
    w.store.isBusy a.issue.id = false :=
  (of_mem_actionables hcollaborators hready
    ((Actionable.byRank_perm _).mem_iff.1 (List.mem_filter.1 ha).1)).2.2

/-- If no issue is listed twice, all entries that have prompts get their sessions. -/
lemma entries_eq_turns (hcollaborators : g.collaborators = b.collaborators)
    (hready : w.IsReady steady) (hdistinct : (issues.map Issue.id).Nodup) {project : Value}
    (hlisting : steady.listing project = .ok issues) :
    g.entries steady w project = g.turns steady w issues := by
  have hranked : ((Actionable.byRank (g.actionables w issues)).map fun a => a.issue.id).Nodup :=
    ((Actionable.byRank_perm _).map _).nodup_iff.2
      (nodup_actionables hcollaborators hready hdistinct)
  rw [entries, Tracker.Steady.issuesOf, hlisting]
  dsimp only
  rw [Actionable.admitted_of_nodup hranked, turns]
  refine List.filter_congr fun a ha => ?_
  rw [(of_mem_actionables hcollaborators hready ((Actionable.byRank_perm _).mem_iff.1 ha)).2.2]
  rfl

/-- Once the first entries have got their sessions, the others are left, in the same order. -/
lemma turns_of_advances (hcollaborators : g.collaborators = b.collaborators)
    (hready : w.IsReady steady) (hdistinct : (issues.map Issue.id).Nodup) {ids : List String}
    {ps : List Placement} (h : w.Advances steady ids ps w') {m : Nat}
    (hps : ps.map Placement.errand = ((g.turns steady w issues).take m).map Actionable.errand) :
    g.turns steady w' issues = (g.turns steady w issues).drop m := by
  rw [← Actionable.filter_not_take (nodup_turns hcollaborators hready hdistinct), turns,
    actionables_of_advances hcollaborators hready h, Actionable.byRank_filter, List.filter_comm]
  refine List.filter_congr fun a ha => ?_
  rw [h.isBusy, mem_turns hcollaborators hready ha, Bool.false_or,
    Placement.any_issue_of_errand (.of_eq hps)]

/-! ## One scan -/

/-- A scan gives sessions to the first entries of its only project, as many as the cap allows. -/
lemma IsSteady.scan_serves (h : g.IsSteady steady) (hready : w.IsReady steady)
    (hidle : g.id ∉ w.scanning) {project : Value} (hproject : g.settings.projects = [project])
    (hlisting : steady.listing project = .ok issues) (hdistinct : (issues.map Issue.id).Nodup) :
    ∃ results ids ps w', g.scan w = (.ok results, w') ∧ w'.scanning = w.scanning ∧
      (g.begun w).Advances steady ids ps w' ∧
      ps.map Placement.errand = ((g.turns steady (g.begun w) issues).take
        g.settings.maxConcurrentDispatches.toNat).map Actionable.errand := by
  obtain ⟨v, hused, hscan⟩ := h.scan_eq hidle
  have hbegun : (g.begun w).IsReady steady := isReady_begun hready
  have hv : (g.begun w).Advances steady [] [] v := .of_usesUp hused
  have hready' := hv.isReady hbegun
  obtain ⟨r, ids, ps, u, hr, hu, -, hps, -⟩ := scanProject_eq h.collaborators hready' project
  have hprojects : g.settings.projects.mapM g.scanProject v = (.ok [r], u) := by
    rw [hproject, List.mapM_cons, Run.bind_of_ok hr, List.mapM_nil]
    rfl
  obtain ⟨w', hresult, hused'⟩ := hscan hprojects
  have hrest : u.Advances steady [] [] { u with scanning := w.scanning } :=
    .of_eq rfl rfl rfl fun _ hid => hid
  have hadvances := ((hv.trans hu).trans hrest).trans (.of_usesUp hused')
  rw [List.append_nil, List.append_nil, List.append_nil, List.append_nil, List.nil_append,
    List.nil_append] at hadvances
  refine ⟨[r], ids, ps, w', hresult, ?_, hadvances, ?_⟩
  · obtain ⟨o, rfl, -⟩ := hused'
    rfl
  · have hturns : g.turns steady v issues = g.turns steady (g.begun w) issues := by
      rw [turns, turns, actionables_of_reading h.collaborators hbegun hv]
    rw [hps, entries_eq_turns h.collaborators hready' hdistinct hlisting, hturns]

/-! ## Scan after scan -/

/-- A number of scans, one after the other. -/
def scans (g : Governor ω) : Nat → Run (World ω) Unit
  | 0 => return ()
  | k + 1 => do
    let _ ← g.scan
    g.scans k

lemma HasProceeded.of_advances {ids : List String} {ps : List Placement}
    (hproceeded : g.HasProceeded w) (h : w.Advances steady ids ps w') : g.HasProceeded w' := by
  intro hsome
  rw [h.clock]
  intro n hn
  rw [Store.mem_overdue_iff, h.touchpoints] at hn
  exact hproceeded hsome n (Store.mem_overdue_iff.2 hn)

/-- Where nothing is left to proceed with, a scan begins in the world as it is. -/
lemma begun_of_hasProceeded (hready : w.IsReady steady) (hproceeded : g.HasProceeded w) :
    g.begun w = { w with scanning := g.id :: w.scanning } := by
  rw [begun, afterTimeouts_of_hasProceeded hready.missing hproceeded]

/-- Scans serve the entries in their order, as many in each scan as the cap allows. -/
lemma IsSteady.scans_serve (h : g.IsSteady steady) (hready : w.IsReady steady)
    (hidle : g.id ∉ w.scanning) (hproceeded : g.HasProceeded w) {project : Value}
    (hproject : g.settings.projects = [project])
    (hlisting : steady.listing project = .ok issues) (hdistinct : (issues.map Issue.id).Nodup)
    (k : Nat) :
    ∃ ids ps w', g.scans k w = (.ok (), w') ∧ w.Advances steady ids ps w' ∧
      ps.map Placement.errand = ((g.turns steady w issues).take
        (k * g.settings.maxConcurrentDispatches.toNat)).map Actionable.errand := by
  induction k generalizing w with
  | zero => exact ⟨[], [], w, rfl, .refl w, by simp⟩
  | succ k ih =>
    have hbegins : w.Advances steady [] [] (g.begun w) := by
      rw [begun_of_hasProceeded hready hproceeded]
      exact .of_eq rfl rfl rfl fun _ hid => hid
    obtain ⟨results, ids, ps, v, hscan, hscanning, hv, hps⟩ :=
      h.scan_serves hready hidle hproject hlisting hdistinct
    have hv := hbegins.trans hv
    have hturns : g.turns steady (g.begun w) issues = g.turns steady w issues := by
      rw [turns, turns, actionables_of_reading h.collaborators hready hbegins]
    rw [hturns] at hps
    obtain ⟨ids', ps', w', hscans, hadvances, hps'⟩ := ih (hv.isReady hready)
      (by rwa [hscanning]) (hproceeded.of_advances hv)
    refine ⟨_, _, w', (Run.bind_of_ok hscan).trans hscans, hv.trans hadvances, ?_⟩
    rw [turns_of_advances h.collaborators hready hdistinct hv hps] at hps'
    rw [List.nil_append, List.map_append, hps, hps', ← List.map_append, Nat.succ_mul, Nat.add_comm,
      List.take_add]

/-- The issues of a list that call for an action in the next scan, once it has proceeded with what
has timed out. -/
def actionablesNext (g : Governor ω) (w : World ω) (issues : List Issue) : List Actionable :=
  g.actionables (g.processTimeouts w).2 issues

lemma IsSteady.actionablesNext_eq (h : g.IsSteady steady) (hready : w.IsReady steady)
    (issues : List Issue) : g.actionablesNext w issues = g.actionables (g.begun w) issues := by
  obtain ⟨proceeded, v, htimeouts, hused⟩ := h.processTimeouts_eq w
  obtain ⟨o, rfl, hunused⟩ := hused
  have hbegun := isReady_begun (g := g) hready
  have hready' : World.IsReady steady { g.afterTimeouts w with outside := o } :=
    ⟨hbegun.missing, hbegun.clock, fun id hid => hbegun.fresh id (hunused id hid)⟩
  rw [actionablesNext, htimeouts]
  exact actionables_of_sameStore h.collaborators hbegun hready' rfl rfl rfl issues

/-- As long as nothing happens but scans, every issue of a project that calls for an action in the
first scan gets a session, in the order of the ranks and in the order of the list for each rank, and
no other issue does.  No scan leaves room under the cap while an issue waits. -/
theorem scans_serve_in_turn (h : g.IsSteady steady) (hready : w.IsReady steady)
    (hids : ∀ t ∈ w.store.touchpoints, Store.IsStorable t.id) (hidle : g.id ∉ w.scanning)
    {project : Value} (hproject : g.settings.projects = [project])
    (hlisting : steady.listing project = .ok issues) (hdistinct : (issues.map Issue.id).Nodup)
    (hprompts : ∀ a ∈ g.actionablesNext w issues, steady.hasPrompt a = true) (k : Nat) :
    ∃ w' sessions, g.scans k w = (.ok (), w') ∧
      w'.store.sessions = w.store.sessions ++ sessions ∧
      sessions.length = min (g.actionablesNext w issues).length
        (k * g.settings.maxConcurrentDispatches.toNat) ∧
      sessions.map Session.errand = ((Actionable.byRank (g.actionablesNext w issues)).take
        (k * g.settings.maxConcurrentDispatches.toNat)).map Actionable.errand := by
  have hbegun := isReady_begun (g := g) hready
  have hturns : g.turns steady (g.begun w) issues =
      Actionable.byRank (g.actionablesNext w issues) := by
    rw [turns, ← h.actionablesNext_eq hready, List.filter_eq_self]
    exact fun a ha => hprompts a ((Actionable.byRank_perm _).mem_iff.1 ha)
  -- It is enough to know what the sessions are for.
  suffices hserved : ∃ w' sessions, g.scans k w = (.ok (), w') ∧
      w'.store.sessions = w.store.sessions ++ sessions ∧
      sessions.map Session.errand = ((g.turns steady (g.begun w) issues).take
        (k * g.settings.maxConcurrentDispatches.toNat)).map Actionable.errand by
    obtain ⟨w', sessions, hscans, hsessions, herrands⟩ := hserved
    rw [hturns] at herrands
    refine ⟨w', sessions, hscans, hsessions, ?_, herrands⟩
    have hlength := congrArg List.length herrands
    rwa [List.length_map, List.length_map, List.length_take, (Actionable.byRank_perm _).length_eq,
      Nat.min_comm] at hlength
  cases k with
  | zero => exact ⟨w, [], rfl, (List.append_nil _).symm, by simp⟩
  | succ k =>
    obtain ⟨results, ids, ps, v, hscan, hscanning, hv, hps⟩ :=
      h.scan_serves hready hidle hproject hlisting hdistinct
    have hproceeded : g.HasProceeded v :=
      HasProceeded.of_advances (w := g.begun w)
        (g.hasProceeded_afterTimeouts hready.missing hready.clock hids) hv
    obtain ⟨ids', ps', w', hscans, hadvances, hps'⟩ := h.scans_serve (hv.isReady hbegun)
      (by rwa [hscanning]) hproceeded hproject hlisting hdistinct k
    have hall := hv.trans hadvances
    have hsessions : (g.begun w).store.sessions = w.store.sessions := by
      have hstore := (g.afterTimeouts_onlyTracks w).store
      rw [begun, hstore]
    refine ⟨w', _, (Run.bind_of_ok hscan).trans hscans, hall.sessions.trans (by rw [hsessions]), ?_⟩
    rw [turns_of_advances h.collaborators hbegun hdistinct hv hps] at hps'
    rw [Placement.map_session_errand, List.map_append, hps, hps', ← List.map_append, Nat.succ_mul,
      Nat.add_comm, List.take_add]

/-- Three issues in the backlog. -/
def backlog : List Issue := [.inBacklog "a", .inBacklog "b", .inBacklog "c"]

/-- Three issues call for an action, and the last one has precedence.  With a cap of two, it gets
its session in the first scan together with the first issue, and the other issue in the second. -/
theorem scans_serve_in_turn_preferring :
    (∃ w' sessions, (counting [.str "p"] 2 fun _ => .ok backlog).scans 1 (.preferring "c") =
        (.ok (), w') ∧ w'.store.sessions = sessions ∧ sessions.map Session.errand =
          [("c", some "development", some 0), ("a", some "development", some 3)]) ∧
      ∃ w' sessions, (counting [.str "p"] 2 fun _ => .ok backlog).scans 2 (.preferring "c") =
        (.ok (), w') ∧ w'.store.sessions = sessions ∧ sessions.map Session.errand =
          [("c", some "development", some 0), ("a", some "development", some 3),
            ("b", some "development", some 3)] := by
  have hserved (k : Nat) := scans_serve_in_turn (isSteady_counting [.str "p"] 2 _)
    (World.isReady_preferring (fun _ => .ok backlog) "c") (by simp [World.preferring])
    (by decide +kernel) rfl rfl (by decide +kernel) (by decide +kernel) k
  refine ⟨?_, ?_⟩
  · obtain ⟨w', sessions, hscans, hsessions, -, herrands⟩ := hserved 1
    exact ⟨w', sessions, hscans, hsessions, herrands.trans (by decide +kernel)⟩
  · obtain ⟨w', sessions, hscans, hsessions, -, herrands⟩ := hserved 2
    exact ⟨w', sessions, hscans, hsessions, herrands.trans (by decide +kernel)⟩

end Governor

end IssueDispatch
