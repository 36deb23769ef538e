import IssueDispatch.Proofs.Governor.Soundness
import IssueDispatch.Proofs.Queue.Frame

/-!
# Activities around a store

Governors scan and handle events, cycles fail or pass, humans give directives, touchpoints time out,
and workers help themselves from the queue.  `Activity` is one of these, by any of the governors and
managers that share a store and a place for overrides, and a run is a list of them.  Overrides that
stay and the records of failed cycles change in no other way: whatever happens elsewhere leaves them
as they are, and so do the operations on the queue.

A directive may be given directly or come as a comment in an event, and then it is followed only if
the event is no repeat.  `World.orders` lists the directives that are followed for an issue in the
course of a run.
-/

namespace IssueDispatch

variable {ω : Type} {shelf : OverrideShelf}

/-- A manager that keeps overrides on a given shelf, and whose comments touch nothing but the state
outside. -/
structure Escalation.IsInstalled (e : Escalation ω) (shelf : OverrideShelf) : Prop where
  sameShelf : e.shelf = shelf
  postComment : ∀ post ∈ e.postComment, ∀ issueId body, (post issueId body).Keeps World.OnlyOutside

/-- A governor that answers from the shared store and from the overrides on a given shelf. -/
structure Governor.IsInstalled (g : Governor ω) (b : StoreBacked ω) (shelf : OverrideShelf) :
    Prop where
  quiet : b.tracker.IsQuiet
  collaborators : g.collaborators = b.collaborators
  discreet : g.IsDiscreet
  sameShelf : b.shelf = shelf
  escalation : ∀ e ∈ g.escalation, e.shelf = shelf

lemma Escalation.isInstalled_standard : (standard : Escalation ω).IsInstalled .shared where
  sameShelf := rfl
  postComment _ hpost := nomatch hpost

lemma Governor.isInstalled_standard (issues : List Issue) (sessionId : String) :
    (standard (.fixed issues sessionId) : Governor Unit).IsInstalled (.fixed issues sessionId)
      .shared where
  quiet := Tracker.isQuiet_fixed issues sessionId
  collaborators := rfl
  discreet := isDiscreet_standard _
  sameShelf := rfl
  escalation _ he := nomatch he

/-! ## Tables -/

/-- No table has come or gone. -/
def World.SameTables (w w' : World ω) : Prop := w'.store.missing = w.store.missing

namespace World.SameTables

variable {w w' : World ω}

instance : IsPreorder (World ω) SameTables where
  refl _ := rfl
  trans _ _ _ h h' := Eq.trans h' h

lemma of_sameWork (h : SameWork w w') : SameTables w w' := h.store.missing

lemma of_onlyOutside (h : OnlyOutside w w') : SameTables w w' :=
  (OnlyLapsed.of_onlyOutside h).missing

lemma of_onlyTracks (h : OnlyTracks w w') : SameTables w w' := .of_sameWork (.of_onlyTracks h)

lemma of_onlySteers (h : OnlySteers w w') : SameTables w w' := .of_sameWork (.of_onlySteers h)

end World.SameTables

/-- A shelf does not come or go without its table. -/
lemma OverrideShelf.IsThere.of_sameTables {w w' : World ω} (h : shelf.IsThere w)
    (htables : w.SameTables w') : shelf.IsThere w' := by
  cases shelf with
  | inProcess => exact trivial
  | shared =>
    intro t ht
    rw [show w'.store.missing = w.store.missing from htables]
    exact h t ht

/-- Counting a failed cycle makes no table come or go. -/
lemma Escalation.IsInstalled.recordFailure_sameTables {e : Escalation ω}
    (he : e.IsInstalled shelf) (issueId identifier : String) (summary : Option String)
    (cost : Option Binary64) :
    (e.recordFailure issueId identifier summary cost).Keeps World.SameTables := by
  refine e.recordFailure_keeps_of_onlyTracks (fun _ _ => .of_onlyTracks) (fun now => ?_)
    (fun post hpost body => ?_) identifier summary cost
  · exact (e.shelf.set_keeps issueId _ none).mono fun _ _ h => .of_onlySteers (.of_onlyOverrides h)
  · exact (he.postComment post hpost issueId body).mono fun _ _ => .of_onlyOutside

namespace Governor.IsInstalled

variable {g : Governor ω} {b : StoreBacked ω} (installed : g.IsInstalled b shelf)

include installed

/-- Collaborators that answer from the store make no table come or go. -/
lemma keep_sameTables : g.collaborators.Keep World.SameTables := by
  rw [installed.collaborators]
  exact StoreBacked.keep_collaborators installed.quiet (fun _ _ h => h.missing) fun _ _ _ => rfl

lemma scan_sameTables : g.scan.Keeps World.SameTables := by
  have hgoesOn : Run.Continues (World.SameTables (ω := ω)) World.SameTables :=
    .of_imp fun _ _ h => h
  refine Governor.scan_keeps hgoesOn (fun h => h) (fun _ _ => rfl) ?_
    (fun project _ => Governor.scanProject_keeps installed.keep_sameTables project)
    fun results => ?_
  · refine Governor.processTimeouts_keeps hgoesOn (fun e _ => ?_) fun fault => ?_
    · exact (e.processTimeouts_keeps none).mono fun _ _ => .of_onlyTracks
    · exact (installed.discreet.onError fault).mono fun _ _ => .of_onlyOutside
  · exact (installed.discreet.onScanComplete results).mono fun _ _ => .of_onlyOutside

/-- A scan keeps what it keeps to proceed with touchpoints, as far as moves go on from there. -/
lemma scan_keeps_of_moves {R S : World ω → World ω → Prop} [IsPreorder (World ω) S]
    (hgoesOn : Run.Continues R S)
    (hbegin : ∀ {w w' : World ω} {scanning : List GovernorId}, R { w with scanning } w' → R w w')
    (hmoves : ∀ {w w' : World ω}, g.Moves b g.settings.projects [] w w' → S w w')
    (hescalation : ∀ e ∈ g.escalation, (e.processTimeouts none).Keeps R) : g.scan.Keeps R := by
  refine Governor.scan_keeps hgoesOn hbegin (fun w scanning => ?_) ?_ (fun project hproject => ?_)
    fun results => ?_
  · exact hmoves (Governor.moves_scanning g b w scanning)
  · refine Governor.processTimeouts_keeps hgoesOn hescalation fun fault => ?_
    exact (installed.discreet.onError_moves b fault).mono fun _ _ => hmoves
  · exact (Governor.scanProject_moves installed.quiet installed.collaborators hproject).mono
      fun _ _ => hmoves
  · exact (installed.discreet.onScanComplete_moves b results).mono fun _ _ => hmoves

end Governor.IsInstalled

/-- Handling an event makes no table come or go. -/
lemma EventGovernor.process_sameTables {g : EventGovernor ω} {b : StoreBacked ω}
    (installed : g.IsInstalled b shelf) (id : String) (e? : Option Event) :
    (g.process id e?).Keeps World.SameTables := by
  intro w
  refine process_keeps (S := World.SameTables) (.of_imp fun _ _ h => h) ?_ ?_
    (fun e _ => Governor.handle_keeps installed.keep_sameTables e.issue) ?_
  · intro w v w' hnoted h
    exact trans_of World.SameTables (.of_sameWork (.of_onlySightings hnoted)) h
  · intro escalation _ issueId d _
    exact (escalation.apply_keeps issueId d).mono fun _ _ => .of_onlySteers
  · refine (g.bus.ack_keeps id).mono fun _ _ h => ?_
    rw [World.SameTables, h.store]

/-! ## Activities -/

/-- Something that happens around a store. -/
inductive Activity (ω : Type) (shelf : OverrideShelf) where
  | scan (g : Governor ω) (b : StoreBacked ω) (installed : g.IsInstalled b shelf)
  | event (g : EventGovernor ω) (b : StoreBacked ω) (installed : g.IsInstalled b shelf)
      (id : String) (e? : Option Event)
  | failure (e : Escalation ω) (installed : e.IsInstalled shelf) (issueId identifier : String)
      (summary : Option String) (cost : Option Binary64)
  | success (e : Escalation ω) (issueId : String)
  | directive (e : Escalation ω) (installed : e.IsInstalled shelf) (issueId : String)
      (d : Directive)
  | timeouts (e : Escalation ω) (now? : Option Binary64)
  | work (op : Operation ω) (own : op.IsOwn)
  | elsewhere (f : World ω → World ω) (leaves : ∀ w, World.LeavesSteering w (f w))

namespace Activity

/-- The world after an activity. -/
def after : Activity ω shelf → World ω → World ω
  | scan g _ _, w => (g.scan w).2
  | event g _ _ id e?, w => (g.process id e? w).2
  | failure e _ issueId identifier summary cost, w =>
    (e.recordFailure issueId identifier summary cost w).2
  | success e issueId, w => (e.recordSuccess issueId w).2
  | directive e _ issueId d, w => (e.apply issueId d w).2
  | timeouts e now?, w => (e.processTimeouts now? w).2
  | work op _, w => op.after w
  | elsewhere f _, w => f w

/-- A governor with the standard settings is told of an issue in the backlog. -/
def poll (id : String) : Activity Unit .shared :=
  .event (.standard (.fixed [.inBacklog id] "s")) (.fixed [.inBacklog id] "s")
    (Governor.isInstalled_standard _ _) "mem-1" (some (.found id))

/-- Whether an activity is one of a governor, which may create sessions. -/
def IsGoverning : Activity ω shelf → Prop
  | scan .. | event .. => True
  | _ => False

/-- The directive that is followed in an activity, with its issue. -/
def followed? : Activity ω shelf → World ω → Option (String × Directive)
  | event g _ _ _ e?, w => g.followed? e? w
  | directive _ _ issueId d, _ => some (issueId, d)
  | _, _ => none

/-- A report of a poll brings no directive. -/
lemma followed?_poll (id : String) (w : World Unit) : (poll id).followed? w = none := by
  have hpoll : (poll id).followed? w =
      (EventGovernor.standard (.fixed [.inBacklog id] "s")).followed? (some (.found id)) w := rfl
  rw [hpoll, EventGovernor.followed?, Option.bind_some]
  split
  · rfl
  · rfl

/-- Whatever happens, no table comes or goes. -/
lemma sameTables_after (a : Activity ω shelf) (w : World ω) : w.SameTables (a.after w) := by
  cases a with
  | scan g b installed => exact installed.scan_sameTables w
  | event g b installed id e? => exact EventGovernor.process_sameTables installed id e? w
  | failure e installed issueId identifier summary cost =>
    exact installed.recordFailure_sameTables issueId identifier summary cost w
  | success e issueId => exact .of_onlyTracks (e.recordSuccess_keeps issueId w)
  | directive e installed issueId d => exact .of_onlySteers (e.apply_keeps issueId d w)
  | timeouts e now? => exact .of_onlyTracks (e.processTimeouts_keeps now? w)
  | work op own => exact (op.leavesSteering_after own w).missing
  | elsewhere f leaves => exact (leaves w).missing

end Activity

namespace World

/-- The world after some activities. -/
def afterAll (w : World ω) (as : List (Activity ω shelf)) : World ω :=
  as.foldl (fun w a => a.after w) w

/-- The directives that are followed for an issue in the course of some activities. -/
def orders (issueId : String) (w : World ω) : List (Activity ω shelf) → List Directive
  | [] => []
  | a :: as =>
    (((a.followed? w).filter fun p => p.1 == issueId).map Prod.snd).toList ++
      orders issueId (a.after w) as

/-- No table comes or goes in a run. -/
lemma sameTables_afterAll (w : World ω) (as : List (Activity ω shelf)) :
    w.SameTables (w.afterAll as) := by
  induction as generalizing w with
  | nil => exact refl w
  | cons a as ih => exact trans_of SameTables (a.sameTables_after w) (ih (a.after w))

variable {issueId : String} {w : World ω} {P : Directive → Prop}

lemma forall_orders_cons {a : Activity ω shelf} {as : List (Activity ω shelf)} :
    (∀ d ∈ w.orders issueId (a :: as), P d) ↔
      (∀ d, a.followed? w = some (issueId, d) → P d) ∧
        ∀ d ∈ (a.after w).orders issueId as, P d := by
  have hfirst : (∀ d ∈ (((a.followed? w).filter fun p => p.1 == issueId).map Prod.snd).toList,
      P d) ↔ ∀ d, a.followed? w = some (issueId, d) → P d := by
    rcases a.followed? w with - | ⟨other, d⟩
    · simp
    · by_cases hother : other = issueId
      · simp [hother, Option.filter_some]
      · simp [hother, Option.filter_some]
  rw [orders, List.forall_mem_append, hfirst]

lemma forall_orders_append {as as' : List (Activity ω shelf)} :
    (∀ d ∈ w.orders issueId (as ++ as'), P d) ↔
      (∀ d ∈ w.orders issueId as, P d) ∧ ∀ d ∈ (w.afterAll as).orders issueId as', P d := by
  induction as generalizing w with
  | nil => simp [orders, afterAll]
  | cons a as ih =>
    rw [List.cons_append, forall_orders_cons, forall_orders_cons, ih, and_assoc]
    rfl

/-- What every activity preserves under some condition on the directives that are followed for an
issue, every run preserves under that condition. -/
lemma afterAll_of_step {I : World ω → Prop}
    (hstep : ∀ (a : Activity ω shelf) w, (∀ d, a.followed? w = some (issueId, d) → P d) → I w →
      I (a.after w)) {as : List (Activity ω shelf)} (h : I w)
    (horders : ∀ d ∈ w.orders issueId as, P d) : I (w.afterAll as) := by
  induction as generalizing w with
  | nil => exact h
  | cons a as ih =>
    obtain ⟨hfirst, hrest⟩ := forall_orders_cons.1 horders
    exact ih (hstep a w hfirst h) hrest

end World

end IssueDispatch
