import IssueDispatch.Proofs.Governor.Scanning
import IssueDispatch.Proofs.Governor.Serving
import IssueDispatch.Proofs.RoundTrip

/-!
# Scans and sweeps

A governor that scans evaluates all issues of a project, puts those that call for an action in order
and dispatches them.  A governor that listens to a bus sweeps instead: it publishes a snapshot of
every listed issue, and later on each issue is evaluated and dispatched when its snapshot comes.

Both begin with the touchpoints that have timed out and then serve all issues of all projects
(`Governor.Serves`), so that they place sessions for the same errands and leave the same behind,
unless a scan stops at its cap.
-/

namespace IssueDispatch

variable {ω : Type}

/-! ## Publishing -/

namespace Bus

/-- A bus takes events. -/
def IsOpen (bus : Bus) (w : World ω) : Prop := (bus.isClosed w).1 = .ok false

/-- A bus carries events about a project: the stored bus needs a JSON text for it. -/
def Carries (bus : Bus) (project : Value) : Prop :=
  match bus with
  | inProcess => True
  | stored _ => Json.refusal? project = none

/-- The events that wait on a bus or have been stored by it, with their identifiers and as they are
written, in the order in which they were published. -/
def log (bus : Bus) (w : World ω) : List (String × Option Value) :=
  match bus with
  | inProcess => w.bus.pending.map fun x => (x.1, some x.2.toValue)
  | stored _ => w.store.events.map fun x => (toString x.id, x.payload)

/-- Every bus carries events about a project that is given by its name. -/
lemma carries_str (bus : Bus) (name : String) : bus.Carries (.str name) := by
  cases bus with
  | inProcess => trivial
  | stored _ => rfl

/-- A bus takes events, and the clock shows a time that can be written. -/
structure TakesEvents (bus : Bus) (timestamp : String) (w : World ω) : Prop where
  missing : w.store.missing = []
  isOpen : bus.IsOpen w
  clock : isoReading w.clock = .ok timestamp

variable {bus : Bus} {w w' : World ω}

lemma IsOpen.of_eq (hopen : bus.IsOpen w) (hbus : w'.bus = w.bus)
    (hclosed : w'.isStoredBusClosed = w.isStoredBusClosed) : bus.IsOpen w' := by
  cases bus with
  | inProcess =>
    have hsame : w'.bus.isClosed = w.bus.isClosed := by rw [hbus]
    exact (congrArg Except.ok hsame).trans hopen
  | stored visibility => exact (congrArg Except.ok hclosed).trans hopen

lemma log_of_eq (hbus : w'.bus = w.bus) (hevents : w'.store.events = w.store.events) :
    bus.log w' = bus.log w := by
  cases bus with
  | inProcess => rw [log, hbus, log]
  | stored visibility => rw [log, hevents, log]

end Bus

/-- Nothing has happened but that events have been published, with these identifiers. -/
structure World.Posts {b : StoreBacked ω} (steady : b.tracker.Steady) (bus : Bus) (w : World ω)
    (published : List (String × Event)) (w' : World ω) : Prop where
  advances : w.Advances steady [] [] w'
  isOpen : bus.IsOpen w → bus.IsOpen w'
  log : bus.log w' = bus.log w ++ published.map fun x => (x.1, some x.2.toValue)

namespace World.Posts

variable {b : StoreBacked ω} {steady : b.tracker.Steady} {bus : Bus} {w v w' : World ω}
  {published published' : List (String × Event)}

/-- Where only the state outside has changed, nothing has been published. -/
lemma of_usesUp (h : w.UsesUp steady.Unused w') : w.Posts steady bus [] w' := by
  have hadvances := World.Advances.of_usesUp h
  obtain ⟨o, rfl, -⟩ := h
  have hlog : bus.log { w with outside := o } = bus.log w := Bus.log_of_eq rfl rfl
  refine ⟨hadvances, fun hopen => hopen.of_eq rfl rfl, ?_⟩
  rw [hlog, List.map_nil, List.append_nil]

protected lemma trans (h : w.Posts steady bus published v)
    (h' : v.Posts steady bus published' w') :
    w.Posts steady bus (published ++ published') w' where
  advances := h.advances.trans h'.advances
  isOpen hopen := h'.isOpen (h.isOpen hopen)
  log := by rw [h'.log, h.log, List.map_append, List.append_assoc]

lemma takesEvents {timestamp : String} (h : w.Posts steady bus published w')
    (hw : bus.TakesEvents timestamp w) : bus.TakesEvents timestamp w' where
  missing := h.advances.missing.trans hw.missing
  isOpen := h.isOpen hw.isOpen
  clock := by
    rw [h.advances.clock]
    exact hw.clock

end World.Posts

/-- A bus that is open takes every event about a project that it carries. -/
lemma Bus.publish_posts {b : StoreBacked ω} (steady : b.tracker.Steady) {bus : Bus} {w : World ω}
    {timestamp : String} (hw : bus.TakesEvents timestamp w) {project : Value}
    (hcarries : bus.Carries project) {e : Event} (hdetail : e.detail = .pollSnapshot project) :
    ∃ id w', bus.publish e w = (.ok id, w') ∧ w.Posts steady bus [(id, e)] w' := by
  cases bus with
  | inProcess =>
    have hopen : w.bus.isClosed = false := Except.ok.inj hw.isOpen
    let id := "mem-" ++ toString (w.bus.published + 1)
    let bus' : MemoryBus := { w.bus with
      published := w.bus.published + 1, items := w.bus.items ++ [.event id e] }
    have hpublish : MemoryBus.publish e w.bus = .ok (id, bus') :=
      if_neg (ne_true_of_eq_false hopen)
    have hrun : inProcess.publish e w = (.ok id, { w with bus := bus' }) := by
      change onMemory (Run.atomically (MemoryBus.publish e)) w = _
      rw [onMemory_apply, Run.atomically_ok hpublish]
    refine ⟨id, _, hrun, .of_eq rfl rfl rfl fun _ hid => hid, fun _ => hw.isOpen, ?_⟩
    change bus'.pending.map _ = _
    rw [MemoryBus.pending_publish hpublish, List.map_append]
    rfl
  | stored visibility =>
    have hopen : w.isStoredBusClosed = false := Except.ok.inj hw.isOpen
    let row : StoredEvent :=
      { id := w.store.lastEvent + 1, payload := some e.toValue, publishedAt := w.clock }
    let w' : World ω := { w with
      store := { w.store with lastEvent := row.id, events := w.store.events ++ [row] } }
    have hstore : World.onStoreNow (Store.publishEvent e) w = (.ok row.id, w') := by
      refine World.onStoreNow_of_eq ?_
      rw [Store.publishEvent, Event.refusal?_toValue_eq_none hdetail hcarries]
      exact Store.changing_of_has (Store.has_of_missing hw.missing _) _
    have hrun : (stored visibility).publish e w = (.ok (toString row.id), w') := by
      rw [publish, Run.bind_of_ok (Run.get_apply w), if_neg (ne_true_of_eq_false hopen)]
      exact Run.bind_of_ok hstore
    refine ⟨_, _, hrun, .of_eq rfl rfl rfl fun _ hid => hid, fun _ => hw.isOpen, ?_⟩
    change (w.store.events ++ [row]).map _ = _
    rw [List.map_append]
    rfl

/-! ## Sweeps -/

/-- The snapshot of an issue that a sweep publishes. -/
def Event.polled (project : Value) (timestamp : String) (issue : Issue) : Event where
  issueId := issue.id
  issue := issue
  detail := .pollSnapshot project
  source := "poll"
  timestamp := some timestamp

namespace EventGovernor

variable {g : EventGovernor ω} {b : StoreBacked ω} {steady : b.tracker.Steady} {w : World ω}
  {timestamp : String}

/-- The snapshots of all issues of all projects. -/
def snapshots (g : EventGovernor ω) {b : StoreBacked ω} (steady : b.tracker.Steady)
    (timestamp : String) : List Event :=
  g.settings.projects.flatMap fun project =>
    (steady.issuesOf project).map (Event.polled project timestamp)

/-- The snapshots of a list are published in its order. -/
lemma publishSnapshots_posts (hw : g.bus.TakesEvents timestamp w) {project : Value}
    (hcarries : g.bus.Carries project) (issues : List Issue) (n : Nat) :
    ∃ published w', g.publishSnapshots project issues n w =
        (.ok (n + published.length, none), w') ∧
      w.Posts steady g.bus published w' ∧
      published.map Prod.snd = issues.map (Event.polled project timestamp) := by
  induction issues generalizing w n with
  | nil => exact ⟨[], w, rfl, .of_usesUp (refl w), rfl⟩
  | cons issue rest ih =>
    obtain ⟨id, v, hpublish, hv⟩ :=
      Bus.publish_posts steady hw hcarries (e := .polled project timestamp issue) rfl
    obtain ⟨published, w', hrest, hw', hevents⟩ := ih (hv.takesEvents hw) (n + 1)
    refine ⟨(id, .polled project timestamp issue) :: published, w', ?_, hv.trans hw', ?_⟩
    · have hstamp : (Run.ofExcept (isoReading w.clock) : Run (World ω) String) w =
          (.ok timestamp, w) := by
        rw [hw.clock]
        rfl
      have hfirst : (do
          let timestamp ← Run.ofExcept (isoReading (← World.now))
          let _ ← g.bus.publish {
            issueId := issue.id, issue, detail := .pollSnapshot project, source := "poll",
            timestamp := some timestamp } : Run (World ω) Unit) w = (.ok (), v) := by
        rw [Run.bind_of_ok (World.now_apply w), Run.bind_of_ok hstamp]
        exact Run.bind_of_ok hpublish
      rw [publishSnapshots, Run.bind_of_ok (Run.attempt_apply _ w), hfirst, List.length_cons,
        Nat.add_comm published.length, ← Nat.add_assoc]
      exact hrest
    · rw [List.map_cons, hevents, List.map_cons]

/-- The part of a sweep that concerns one project: the number of published snapshots. -/
def sweepProject (g : EventGovernor ω) (project : Value) : Run (World ω) Nat := do
  match ← Run.attempt (g.collaborators.listIssues project) with
  | .ok (some issues) => return (← g.publishSnapshots project issues 0).1
  | _ => return 0

lemma sweep_eq (g : EventGovernor ω) : g.sweep =
    g.settings.projects.mapM g.sweepProject >>= fun counts => pure (counts.foldl (· + ·) 0) := rfl

lemma sweepProject_posts (steady : b.tracker.Steady)
    (hcollaborators : g.collaborators = b.collaborators) (hw : g.bus.TakesEvents timestamp w)
    {project : Value} (hcarries : g.bus.Carries project) :
    ∃ published w', g.sweepProject project w = (.ok published.length, w') ∧
      w.Posts steady g.bus published w' ∧
      published.map Prod.snd = (steady.issuesOf project).map (Event.polled project timestamp) := by
  obtain ⟨v, hlist, hused⟩ := steady.listIssues project w
  have hv : w.Posts steady g.bus [] v := .of_usesUp hused
  have hlisted : g.collaborators.listIssues project w =
      ((steady.listing project).map some, v) := by
    rw [hcollaborators]
    exact hlist
  rw [sweepProject, Run.bind_of_ok (Run.attempt_apply _ w), hlisted, Tracker.Steady.issuesOf]
  rcases steady.listing project with fault | issues
  · exact ⟨[], v, rfl, hv, rfl⟩
  · obtain ⟨published, w', hpublish, hw', hevents⟩ :=
      publishSnapshots_posts (hv.takesEvents hw) hcarries issues 0
    rw [Nat.zero_add] at hpublish
    exact ⟨published, w', Run.bind_of_ok hpublish, hv.trans hw', hevents⟩

lemma mapM_sweepProject_posts (hcollaborators : g.collaborators = b.collaborators)
    (hw : g.bus.TakesEvents timestamp w) {projects : List Value}
    (hcarries : ∀ project ∈ projects, g.bus.Carries project) :
    ∃ counts published w', projects.mapM g.sweepProject w = (.ok counts, w') ∧
      (∀ n, counts.foldl (· + ·) n = n + published.length) ∧ w.Posts steady g.bus published w' ∧
      published.map Prod.snd = projects.flatMap fun project =>
        (steady.issuesOf project).map (Event.polled project timestamp) := by
  induction projects generalizing w with
  | nil => exact ⟨[], [], w, rfl, fun _ => rfl, .of_usesUp (refl w), rfl⟩
  | cons project projects ih =>
    obtain ⟨hproject, hprojects⟩ := List.forall_mem_cons.1 hcarries
    obtain ⟨published, v, hsweep, hv, hevents⟩ :=
      sweepProject_posts steady hcollaborators hw hproject
    obtain ⟨counts, published', w', hrest, hsum, hw', hevents'⟩ :=
      ih (hv.takesEvents hw) hprojects
    refine ⟨published.length :: counts, published ++ published', w', ?_, fun n => ?_,
      hv.trans hw', ?_⟩
    · rw [List.mapM_cons, Run.bind_of_ok hsweep, Run.bind_of_ok hrest]
      rfl
    · rw [List.foldl_cons, hsum, List.length_append, Nat.add_assoc]
    · rw [List.map_append, hevents, hevents', List.flatMap_cons]

/-- A sweep publishes the snapshots of all issues of all projects and counts them. -/
lemma sweep_posts (hcollaborators : g.collaborators = b.collaborators)
    (hw : g.bus.TakesEvents timestamp w)
    (hcarries : ∀ project ∈ g.settings.projects, g.bus.Carries project) :
    ∃ published w', g.sweep w = (.ok published.length, w') ∧
      w.Posts steady g.bus published w' ∧
      published.map Prod.snd = g.snapshots steady timestamp := by
  obtain ⟨counts, published, w', hcounts, hsum, hposts, hevents⟩ :=
    mapM_sweepProject_posts hcollaborators hw hcarries
  refine ⟨published, w', ?_, hposts, hevents⟩
  rw [sweep_eq, Run.bind_of_ok hcounts, hsum, Nat.zero_add]
  rfl

/-! ## Handling events -/

/-- Handles some events one after the other.  One whose handling fails is left unacknowledged. -/
def processAll (g : EventGovernor ω) : List (String × Event) → Run (World ω) Unit
  | [] => return ()
  | (id, e) :: rest => do
    let _ ← Run.attempt (g.process id (some e))
    g.processAll rest

/-- Handling a snapshot serves its issue. -/
lemma process_serves (hcollaborators : g.collaborators = b.collaborators) (hdedup : g.dedup = none)
    (hready : w.IsReady steady) (id timestamp : String) (project : Value) (issue : Issue) :
    g.Serves steady w [issue] (g.process id (some (.polled project timestamp issue)) w).2 := by
  have hnew : g.isRepeat (.polled project timestamp issue) w = (.ok false, w) := by
    rw [isRepeat, hdedup]
    rfl
  have hserves := Governor.handle_serves hcollaborators hready issue
  rw [process_of_not_repeat hnew]
  rcases hhandle : g.handle issue w with ⟨fault | decision, v⟩ <;> rw [hhandle] at hserves
  · have hreact : g.react (.polled project timestamp issue) w = (.error fault, v) :=
      Run.bind_of_error hhandle
    rwa [Run.bind_of_error hreact]
  · have hreact : g.react (.polled project timestamp issue) w = (.ok (), v) :=
      Run.bind_of_ok hhandle
    rw [Run.bind_of_ok hreact]
    exact hserves.before (.of_onlyBus (g.bus.ack_keeps id v))

/-- Handling snapshots one after the other serves their issues. -/
lemma processAll_serves (hcollaborators : g.collaborators = b.collaborators)
    (hdedup : g.dedup = none) (hready : w.IsReady steady) {published : List (String × Event)}
    (hpolled : ∀ x ∈ published, ∃ project issue, x.2 = .polled project timestamp issue) :
    ∃ w', g.processAll published w = (.ok (), w') ∧
      g.Serves steady w (published.map fun x => x.2.issue) w' := by
  induction published generalizing w with
  | nil => exact ⟨w, rfl, .nil g.toGovernor steady w⟩
  | cons x rest ih =>
    obtain ⟨id, e⟩ := x
    obtain ⟨⟨project, issue, rfl⟩, hrest⟩ := List.forall_mem_cons.1 hpolled
    have hfirst := process_serves hcollaborators hdedup hready id timestamp project issue
    obtain ⟨w', hprocess, hserves⟩ := ih (hfirst.isReady hready) hrest
    refine ⟨w', ?_, hfirst.append hcollaborators hready hserves⟩
    rw [processAll, Run.bind_of_ok (Run.attempt_apply _ w)]
    exact hprocess

/-! ## A turn of each kind -/

/-- One turn of polling: touchpoints that have timed out are proceeded with, and then all issues are
published. -/
def poll (g : EventGovernor ω) : Run (World ω) Nat := do
  let _ ← g.processTimeouts
  g.sweep

/-- Polling publishes the snapshots of all issues of all projects. -/
lemma poll_posts (h : g.IsSteady steady) (hready : w.IsReady steady) (hopen : g.bus.IsOpen w)
    (hcarries : ∀ project ∈ g.settings.projects, g.bus.Carries project)
    (htime : isoReading w.clock = .ok timestamp) :
    ∃ published v, g.poll w = (.ok published.length, v) ∧
      (g.afterTimeouts w).Posts steady g.bus published v ∧
      g.bus.log v = g.bus.log w ++ published.map (fun x => (x.1, some x.2.toValue)) ∧
      published.map Prod.snd = g.snapshots steady timestamp := by
  have htracks := g.afterTimeouts_onlyTracks w
  have hstore := htracks.store
  have hw : g.bus.TakesEvents timestamp (g.afterTimeouts w) := by
    refine ⟨(Governor.isReady_afterTimeouts hready).missing, hopen.of_eq ?_ ?_, ?_⟩
    · rw [htracks.frame]
    · rw [htracks.frame]
    · rw [htracks.frame]
      exact htime
  have hlog : g.bus.log (g.afterTimeouts w) = g.bus.log w := by
    refine Bus.log_of_eq ?_ ?_
    · rw [htracks.frame]
    · rw [hstore]
  obtain ⟨proceeded, u, htimeouts, hused⟩ := h.processTimeouts_eq w
  have hu : (g.afterTimeouts w).Posts steady g.bus [] u := .of_usesUp hused
  obtain ⟨published, v, hsweep, hv, hevents⟩ :=
    sweep_posts h.collaborators (hu.takesEvents hw) hcarries
  have hposts := hu.trans hv
  rw [List.nil_append] at hposts
  exact ⟨published, v, (Run.bind_of_ok htimeouts).trans hsweep, hposts,
    hposts.log.trans (by rw [hlog]), hevents⟩

/-- Handling all snapshots that a turn of polling has published serves all issues of all projects,
once what has timed out has been proceeded with. -/
lemma processAll_polled (h : g.IsSteady steady) (hdedup : g.dedup = none)
    (hready : w.IsReady steady) {published : List (String × Event)} {v : World ω}
    (hposts : (g.afterTimeouts w).Posts steady g.bus published v)
    (hevents : published.map Prod.snd = g.snapshots steady timestamp) :
    ∃ w', g.processAll published v = (.ok (), w') ∧
      g.Serves steady (g.afterTimeouts w) (g.settings.projects.flatMap steady.issuesOf) w' := by
  have hready' := Governor.isReady_afterTimeouts (g := g.toGovernor) hready
  have hpolled : ∀ x ∈ published, ∃ project issue, x.2 = .polled project timestamp issue := by
    intro x hx
    have hmem : x.2 ∈ g.snapshots steady timestamp := hevents ▸ List.mem_map_of_mem hx
    obtain ⟨project, -, hissue⟩ := List.mem_flatMap.1 hmem
    obtain ⟨issue, -, hpolled⟩ := List.mem_map.1 hissue
    exact ⟨project, issue, hpolled.symm⟩
  have hissues : published.map (fun x => x.2.issue) =
      g.settings.projects.flatMap steady.issuesOf := by
    have := congrArg (List.map Event.issue) hevents
    rw [List.map_map, snapshots, List.map_flatMap] at this
    refine this.trans (List.flatMap_congr fun project _ => ?_)
    rw [List.map_map]
    exact List.map_id _
  obtain ⟨w', hprocess, hserves⟩ := processAll_serves h.collaborators hdedup
    (hposts.advances.isReady hready') hpolled
  rw [hissues] at hserves
  exact ⟨w', hprocess, hserves.after h.collaborators hready' hposts.advances⟩

end EventGovernor

namespace Governor

variable {g g' : Governor ω} {b : StoreBacked ω} {steady : b.tracker.Steady} {w : World ω}

/-- Unless the cap keeps issues out, a scan serves all issues of all projects, once what has timed
out has been proceeded with. -/
lemma IsSteady.scan_serves_all (h : g.IsSteady steady) (hready : w.IsReady steady)
    (hidle : g.id ∉ w.scanning) :
    ∃ results w', g.scan w = (.ok results, w') ∧ ((∀ r ∈ results, ¬ r.HitsLimit) →
      g.Serves steady (g.afterTimeouts w) (g.settings.projects.flatMap steady.issuesOf) w') := by
  have hready' := isReady_afterTimeouts (g := g) hready
  obtain ⟨v, hused, hscan⟩ := h.scan_eq hidle
  have hbegins : (g.afterTimeouts w).Advances steady [] [] (g.begun w) :=
    .of_eq rfl rfl rfl fun _ hid => hid
  have hv : (g.afterTimeouts w).Advances steady [] [] v := hbegins.trans (.of_usesUp hused)
  obtain ⟨results, u, hprojects, hserves⟩ :=
    mapM_scanProject_serves h.collaborators (hv.isReady hready') g.settings.projects
  obtain ⟨w', hresult, hused'⟩ := hscan hprojects
  have hends : u.Advances steady [] [] { u with scanning := w.scanning } :=
    .of_eq rfl rfl rfl fun _ hid => hid
  refine ⟨results, w', hresult, fun hlimits => ?_⟩
  exact (((hserves hlimits).before hends).before (.of_usesUp hused')).after h.collaborators hready'
    hv

/-- Governors with the same settings, collaborators and escalation find the same issues to call for
an action. -/
lemma actionables_of_same (hsettings : g'.settings = g.settings)
    (hcollaborators : g'.collaborators = g.collaborators)
    (hescalation : g'.escalation = g.escalation) (w : World ω) (issues : List Issue) :
    g'.actionables w issues = g.actionables w issues := by
  obtain ⟨id, settings, collaborators, escalation, onScanComplete, onError⟩ := g
  obtain ⟨id', _, _, _, onScanComplete', onError'⟩ := g'
  subst hsettings hcollaborators hescalation
  rfl

end Governor

/-! ## Agreement -/

/-- Sessions have been recorded, each with its work in the queue. -/
structure World.Adds (w : World ω) (ps : List Placement) (w' : World ω) : Prop where
  sessions : w'.store.sessions = w.store.sessions ++ ps.map fun p => p.session w.clock
  queue : w'.store.queue = w.store.queue ++ ps.map fun p => p.work w.clock

/-- Two ways on from a world have led to sessions for the same errands, and to the same overrides,
records of failed cycles, completed phases and touchpoints. -/
structure World.Agree (w w₁ w₂ : World ω) : Prop where
  placed : ∃ ps₁ ps₂, w.Adds ps₁ w₁ ∧ w.Adds ps₂ w₂ ∧
    (ps₁.map Placement.errand).Perm (ps₂.map Placement.errand)
  overrides : ∀ shelf : OverrideShelf, shelf.kept w₁ = shelf.kept w₂
  workflow : w₁.store.workflow = w₂.store.workflow
  phases : w₁.store.phases = w₂.store.phases
  touchpoints : w₁.store.touchpoints = w₂.store.touchpoints
  lastTouchpoint : w₁.store.lastTouchpoint = w₂.store.lastTouchpoint

/-- Whoever serves the same issues in the same world comes to agree. -/
lemma Governor.Serves.agree {g : Governor ω} {b : StoreBacked ω} {steady : b.tracker.Steady}
    {w v w₁ w₂ : World ω} {issues : List Issue} (hv : w.OnlyTracks v)
    (h₁ : g.Serves steady v issues w₁) (h₂ : g.Serves steady v issues w₂) : w.Agree w₁ w₂ := by
  obtain ⟨ids₁, ps₁, hadvances₁, hids₁, hps₁⟩ := h₁
  obtain ⟨ids₂, ps₂, hadvances₂, hids₂, hps₂⟩ := h₂
  have hstore := hv.store
  have hclock : v.clock = w.clock := by rw [hv.frame]
  have hsessions : v.store.sessions = w.store.sessions := by rw [hstore]
  have hqueue : v.store.queue = w.store.queue := by rw [hstore]
  have hadds {ids : List String} {ps : List Placement} {w' : World ω}
      (h : v.Advances steady ids ps w') : w.Adds ps w' := by
    refine ⟨h.sessions.trans ?_, h.queue.trans ?_⟩
    · rw [hsessions, hclock]
    · rw [hqueue, hclock]
  have hsame := hadvances₂.of_mem_iff fun id => (hids₂ id).trans (hids₁ id).symm
  exact {
    placed := ⟨ps₁, ps₂, hadds hadvances₁, hadds hadvances₂, hps₁.trans hps₂.symm⟩
    overrides := fun shelf => (hadvances₁.kept shelf).trans (hsame.kept shelf).symm
    workflow := hadvances₁.workflow.trans hsame.workflow.symm
    phases := hadvances₁.phases.trans hsame.phases.symm
    touchpoints := hadvances₁.touchpoints.trans hsame.touchpoints.symm
    lastTouchpoint := hadvances₁.lastTouchpoint.trans hsame.lastTouchpoint.symm }

/-- A governor that scans and one that listens to events come to agree.  Let them have the same
settings, collaborators and escalation, and let the second one drop no repeats and listen to a bus
that carries the projects, as every bus does if they are given by their names.  If the first one
scans and is not kept from any issue by its cap, and the second one takes a turn of polling and then
handles the published events in their order, they place sessions for the same errands, and leave the
same overrides, records of failed cycles and touchpoints. -/
theorem EventGovernor.agrees_with_scan {g : Governor ω} {g' : EventGovernor ω}
    {b : StoreBacked ω} {steady : b.tracker.Steady} {w : World ω} {timestamp : String}
    (hg : g.IsSteady steady) (hg' : g'.IsSteady steady) (hsettings : g'.settings = g.settings)
    (hescalation : g'.escalation = g.escalation) (hdedup : g'.dedup = none)
    (hready : w.IsReady steady) (hidle : g.id ∉ w.scanning) (hopen : g'.bus.IsOpen w)
    (hcarries : ∀ project ∈ g.settings.projects, g'.bus.Carries project)
    (htime : isoReading w.clock = .ok timestamp)
    (hlimit : ∀ results, (g.scan w).1 = .ok results → ∀ r ∈ results, ¬ r.HitsLimit) :
    ∃ results w₁ published v w₂, g.scan w = (.ok results, w₁) ∧
      g'.poll w = (.ok published.length, v) ∧
      published.map Prod.snd = g'.snapshots steady timestamp ∧
      g'.bus.log v = g'.bus.log w ++ published.map (fun x => (x.1, some x.2.toValue)) ∧
      g'.processAll published v = (.ok (), w₂) ∧ w.Agree w₁ w₂ := by
  obtain ⟨results, w₁, hscan, hserves⟩ := hg.scan_serves_all hready hidle
  have h₁ := hserves (hlimit results (by rw [hscan]))
  rw [← hsettings] at hcarries
  obtain ⟨published, v, hpoll, hposts, hlog, hevents⟩ := poll_posts hg' hready hopen hcarries htime
  obtain ⟨w₂, hprocess, h₂⟩ := processAll_polled hg' hdedup hready hposts hevents
  have hafter : g'.afterTimeouts w = g.afterTimeouts w := by
    rw [Governor.afterTimeouts, hescalation, Governor.afterTimeouts]
  have hsame : g.Serves steady (g.afterTimeouts w)
      (g.settings.projects.flatMap steady.issuesOf) w₂ := by
    obtain ⟨ids, ps, hadvances, hids, hps⟩ := h₂
    rw [hafter] at hadvances
    rw [hsettings] at hids
    rw [Governor.due, hafter, hsettings, Governor.actionables_of_same hsettings
      (hg'.collaborators.trans hg.collaborators.symm) hescalation] at hps
    exact ⟨ids, ps, hadvances, hids, hps⟩
  exact ⟨results, w₁, published, v, w₂, hscan, hpoll, hevents, hlog, hprocess,
    h₁.agree (g.afterTimeouts_onlyTracks w) hsame⟩

/-- Two of three projects can be listed, and one issue stands in both. -/
def Tracker.overlapping (project : Value) : Except Fault (List Issue) :=
  if project.str? = some "web" then .ok [.inBacklog "a"]
  else if project.str? = some "app" then .ok [.inBacklog "a", .inBacklog "b"]
  else .error (.external "unknown project")

/-- A governor that looks after these projects and has room for three dispatches in each. -/
def Governor.overlapping : Governor Nat :=
  .counting [.str "web", .str "old", .str "app"] 3 Tracker.overlapping

/-- The same governor as it listens to the bus of its process. -/
def EventGovernor.overlapping : EventGovernor Nat where
  toGovernor := .overlapping
  bus := .inProcess

/-- Both governors place one session for each issue of the projects that can be listed. -/
theorem EventGovernor.agrees_with_scan_overlapping :
    ∃ results w₁ published v w₂,
      Governor.overlapping.scan (.preferring "b") = (.ok results, w₁) ∧
        overlapping.poll (.preferring "b") = (.ok published.length, v) ∧
        overlapping.processAll published v = (.ok (), w₂) ∧
        World.Agree (.preferring "b") w₁ w₂ ∧ w₁.store.sessions.map Session.errand =
          [("a", some "development", some 3), ("b", some "development", some 0)] := by
  have hsteady : Governor.overlapping.IsSteady (b := .counting Tracker.overlapping)
      (Tracker.steadyCounting Tracker.overlapping) := Governor.isSteady_counting _ _ _
  have hsteady' : overlapping.IsSteady (b := .counting Tracker.overlapping)
      (Tracker.steadyCounting Tracker.overlapping) := hsteady
  have htime : isoReading 0 = .ok "1970-01-01T00:00:00+00:00" := by decide +kernel
  have hlimit : ∀ r ∈ (Governor.overlapping.scan (.preferring "b")).1.toOption.getD [],
      ¬ r.HitsLimit := by
    decide +kernel
  have hcarries : ∀ project ∈ Governor.overlapping.settings.projects,
      overlapping.bus.Carries project := by
    have hnames : Governor.overlapping.settings.projects = ["web", "old", "app"].map Value.str :=
      rfl
    intro project hproject
    rw [hnames] at hproject
    obtain ⟨name, -, rfl⟩ := List.mem_map.1 hproject
    exact overlapping.bus.carries_str name
  obtain ⟨results, w₁, published, v, w₂, hscan, hpoll, -, -, hprocess, hagree⟩ :=
    agrees_with_scan hsteady hsteady' rfl rfl rfl (World.isReady_preferring _ "b") (by decide) rfl
      hcarries htime fun results hresults => by rwa [hresults] at hlimit
  refine ⟨results, w₁, published, v, w₂, hscan, hpoll, hprocess, hagree, ?_⟩
  have hsessions : (Governor.overlapping.scan (.preferring "b")).2.store.sessions.map
      Session.errand = [("a", some "development", some 3), ("b", some "development", some 0)] := by
    decide +kernel
  rwa [hscan] at hsessions

end IssueDispatch
