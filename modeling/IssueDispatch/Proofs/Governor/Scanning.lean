import IssueDispatch.Proofs.Governor.Keeping
import IssueDispatch.Proofs.Governor.Placing
import IssueDispatch.Proofs.Governor.Timeouts
import IssueDispatch.Proofs.Standard

/-!
# Scans of a steady governor

A scan proceeds with touchpoints that have timed out and then goes through the projects.  If nothing
that a governor is connected to does more than it is meant to do (`Governor.IsSteady`), both parts
always come to an end, and what a scan has done is known from its two parts.
-/

namespace IssueDispatch

variable {ω : Type}

instance (Unused : ω → String → Prop) : IsPreorder (World ω) (World.UsesUp Unused) where
  refl w := ⟨w.outside, rfl, fun _ h => h⟩
  trans := by
    rintro w _ _ ⟨o, rfl, ho⟩ ⟨o', rfl, ho'⟩
    exact ⟨o', rfl, fun id h => ho id (ho' id h)⟩

lemma World.OnlyOutside.of_usesUp {Unused : ω → String → Prop} {w w' : World ω}
    (h : w.UsesUp Unused w') : w.OnlyOutside w' := by
  obtain ⟨o, ho, -⟩ := h
  exact ⟨o, ho⟩

/-- The same scans are under way. -/
def World.SameScans (w w' : World ω) : Prop := w'.scanning = w.scanning

instance : IsPreorder (World ω) World.SameScans where
  refl _ := rfl
  trans _ _ _ h h' := Eq.trans h' h

/-- A question that always has the same answer touches nothing but the state outside. -/
lemma Run.Yields.keeps {α : Type} {Unused : ω → String → Prop} {x : Run (World ω) α}
    {answer : Except Fault α} (h : Run.Yields Unused x answer) : x.Keeps World.OnlyOutside := by
  intro w
  obtain ⟨w', hx, hused⟩ := h w
  rw [hx]
  exact .of_usesUp hused

/-- A steady tracker is quiet. -/
lemma Tracker.Steady.isQuiet {t : Tracker ω} (steady : t.Steady) : t.IsQuiet where
  listIssues project := (steady.listIssues project).keeps
  isParentIssue check hcheck issueId := by
    have hyields := steady.isParentIssue issueId
    rw [Option.mem_def.1 hcheck] at hyields
    exact hyields.keeps
  prompt issue workType := (steady.prompt issue workType).keeps
  newSessionId w := by
    obtain ⟨id, w', hid, hused, -⟩ := steady.newSessionId w
    rw [hid]
    exact .of_usesUp hused

namespace Governor

/-- A governor that answers from the store and a steady tracker, and whose callbacks touch nothing
but the state outside. -/
structure IsSteady (g : Governor ω) {b : StoreBacked ω} (steady : b.tracker.Steady) : Prop where
  collaborators : g.collaborators = b.collaborators
  onScanComplete : ∀ results, (g.onScanComplete results).Keeps (World.UsesUp steady.Unused)
  onError : ∀ fault, (g.onError fault).Keeps (World.UsesUp steady.Unused)

/-- Nothing that has timed out is left to proceed with. -/
def HasProceeded (g : Governor ω) (w : World ω) : Prop :=
  g.escalation.isSome = true → w.store.HasProceeded w.clock

/-- The world after what has timed out has been proceeded with, before anything is told about it. -/
def afterTimeouts (g : Governor ω) (w : World ω) : World ω :=
  g.escalation.elim w fun e => (e.processTimeouts none w).2

variable {g : Governor ω} {b : StoreBacked ω} {steady : b.tracker.Steady} {w : World ω}

/-! ## Timeouts -/

lemma afterTimeouts_onlyTracks (g : Governor ω) (w : World ω) :
    w.OnlyTracks (g.afterTimeouts w) := by
  rw [afterTimeouts]
  cases g.escalation with
  | none => exact refl w
  | some e => exact e.processTimeouts_keeps none w

/-- Only the clock and the store matter for what has timed out. -/
lemma exists_afterTimeouts_eq (g : Governor ω) :
    ∃ f : Binary64 → Store → Store, ∀ w, g.afterTimeouts w =
      { w with store := f w.clock w.store } := by
  unfold afterTimeouts
  cases g.escalation with
  | none => exact ⟨fun _ s => s, fun w => rfl⟩
  | some e =>
    obtain ⟨y, hy⟩ := e.processTimeouts_isOnStore none
    refine ⟨fun now s => (y now s).2, fun w => ?_⟩
    rw [Option.elim_some, hy, World.onStoreNow_apply]

/-- Proceeding with touchpoints ends well, even if there is a fault to tell about. -/
lemma IsSteady.processTimeouts_eq (h : g.IsSteady steady) (w : World ω) :
    ∃ proceeded w', g.processTimeouts w = (.ok proceeded, w') ∧
      (g.afterTimeouts w).UsesUp steady.Unused w' := by
  rw [processTimeouts, afterTimeouts]
  cases g.escalation with
  | none => exact ⟨[], w, rfl, refl w⟩
  | some e =>
    dsimp only
    rw [Run.bind_of_ok (Run.attempt_apply _ w), Option.elim_some]
    rcases e.processTimeouts none w with ⟨fault | proceeded, v⟩
    · have hreport : v.UsesUp steady.Unused (g.report fault v).2 :=
        report_keeps h.onError fault v
      exact ⟨[], _, Run.bind_of_ok (Run.bind_of_ok (Run.attempt_apply _ _)), hreport⟩
    · exact ⟨_, v, rfl, refl v⟩

/-- Once what has timed out has been proceeded with, nothing is left. -/
lemma hasProceeded_afterTimeouts (g : Governor ω) (hmissing : w.store.missing = [])
    (hclock : w.clock.isNaN = false) (hids : ∀ t ∈ w.store.touchpoints, Store.IsStorable t.id) :
    g.HasProceeded (g.afterTimeouts w) := by
  intro hsome
  obtain ⟨e, he⟩ := Option.isSome_iff_exists.1 hsome
  have hframe := (e.processTimeouts_keeps none w).frame
  rw [afterTimeouts, he, Option.elim_some, hframe]
  exact e.hasProceeded_of_processTimeouts hmissing hclock hids

/-- Where nothing is left to proceed with, nothing happens. -/
lemma afterTimeouts_of_hasProceeded (hmissing : w.store.missing = []) (h : g.HasProceeded w) :
    g.afterTimeouts w = w := by
  rw [afterTimeouts]
  cases he : g.escalation with
  | none => rfl
  | some e =>
    rw [Option.elim_some, e.processTimeouts_of_hasProceeded hmissing (h (by rw [he]; rfl))]

/-! ## Scans -/

/-- The world in which a scan begins with the first project, but for what is told. -/
def begun (g : Governor ω) (w : World ω) : World ω :=
  { g.afterTimeouts w with scanning := g.id :: w.scanning }

lemma afterTimeouts_scanning (g : Governor ω) (w : World ω) (scanning : List GovernorId) :
    g.afterTimeouts { w with scanning } = { g.afterTimeouts w with scanning } := by
  obtain ⟨f, hf⟩ := g.exists_afterTimeouts_eq
  rw [hf, hf]

/-- Whoever is ready stays so when touchpoints are proceeded with. -/
lemma isReady_afterTimeouts (hready : w.IsReady steady) : (g.afterTimeouts w).IsReady steady := by
  have htracks := g.afterTimeouts_onlyTracks w
  have hstore := htracks.store
  rw [htracks.frame]
  refine ⟨?_, hready.clock, fun id hid => ?_⟩
  · rw [hstore]
    exact hready.missing
  · rw [hstore]
    exact hready.fresh id hid

/-- Whoever is ready for a scan is so when it begins. -/
lemma isReady_begun (hready : w.IsReady steady) : (g.begun w).IsReady steady := by
  have hoverall := isReady_afterTimeouts (g := g) hready
  exact ⟨hoverall.missing, hoverall.clock, hoverall.fresh⟩

/-- Going through projects does not change which scans are under way. -/
lemma IsSteady.projects_sameScans (h : g.IsSteady steady) (projects : List Value) :
    (projects.mapM g.scanProject).Keeps World.SameScans := by
  have hkeep : g.collaborators.Keep World.SameScans := by
    rw [h.collaborators]
    exact StoreBacked.keep_collaborators steady.isQuiet
      (fun w w' hlapsed => by rw [World.SameScans, hlapsed.frame]) fun _ _ _ => rfl
  exact .mapM fun project _ => scanProject_keeps hkeep project

/-- A scan goes through the projects once what has timed out has been proceeded with. -/
lemma IsSteady.scan_eq (h : g.IsSteady steady) (hidle : g.id ∉ w.scanning) :
    ∃ v, (g.begun w).UsesUp steady.Unused v ∧ ∀ {results u},
      g.settings.projects.mapM g.scanProject v = (.ok results, u) → ∃ w',
        g.scan w = (.ok results, w') ∧
          ({ u with scanning := w.scanning } : World ω).UsesUp steady.Unused w' := by
  let started : World ω := { w with scanning := g.id :: w.scanning }
  obtain ⟨proceeded, v, htimeouts, hused⟩ := h.processTimeouts_eq started
  rw [afterTimeouts_scanning] at hused
  refine ⟨v, hused, fun {results u} hprojects => ?_⟩
  have hscanning : u.scanning.filter (fun x => x != g.id) = w.scanning := by
    obtain ⟨o, rfl, -⟩ := hused
    have hsame : u.scanning = g.id :: w.scanning :=
      (h.projects_sameScans g.settings.projects).of_apply_eq hprojects
    rw [hsame, List.filter_cons_of_neg (by simp), List.filter_eq_self]
    intro x hx
    exact bne_iff_ne.2 fun hid => hidle (hid ▸ hx)
  have hnot : w.scanning.contains g.id = false := by simpa using hidle
  have hall : g.scanAll started = (.ok results, u) := (Run.bind_of_ok htimeouts).trans hprojects
  have hwhile : g.whileScanning g.scanAll w =
      (.ok results, { u with scanning := w.scanning }) := by
    rw [whileScanning, Run.bind_of_ok (Run.modify_apply _ w),
      Run.bind_of_ok (Run.attempt_apply _ started), hall, Run.bind_of_ok (Run.modify_apply _ u),
      hscanning]
    rfl
  refine ⟨_, ?_, h.onScanComplete results _⟩
  rw [scan, Run.bind_of_ok (show g.isScanning w = (.ok (w.scanning.contains g.id), w) from rfl),
    hnot, if_neg Bool.false_ne_true, Run.bind_of_ok hwhile]
  rfl

end Governor

/-! ## A tracker that counts -/

namespace Tracker

/-- The name of the session with a number. -/
def sessionName (n : Nat) : String := String.ofList (List.replicate n 's')

lemma sessionName_injective : Function.Injective sessionName := by
  intro m n h
  have hlists := String.ofList_injective h
  simpa using congrArg List.length hlists

/-- A tracker that shows fixed lists of issues and numbers its sessions. -/
def counting (listing : Value → Except Fault (List Issue)) : Tracker Nat where
  listIssues project := Run.ofExcept ((listing project).map some)
  newSessionId := modifyGet fun w => (sessionName w.outside, { w with outside := w.outside + 1 })

/-- Such a tracker is steady: the names of the numbers to come are unused. -/
def steadyCounting (listing : Value → Except Fault (List Issue)) : (counting listing).Steady where
  listing := listing
  parent _ := .ok false
  promptFor _ _ := .ok none
  Unused n id := ∃ m, n ≤ m ∧ id = sessionName m
  listIssues _ w := ⟨w, rfl, refl w⟩
  isParentIssue _ w := ⟨w, rfl, refl w⟩
  prompt _ _ w := ⟨w, rfl, refl w⟩
  newSessionId w := by
    refine ⟨_, _, rfl, ⟨w.outside + 1, rfl, ?_⟩, ⟨w.outside, Nat.le_refl _, rfl⟩, ?_⟩
    · rintro id ⟨m, hm, rfl⟩
      exact ⟨m, Nat.le_of_succ_le hm, rfl⟩
    · rintro ⟨m, hm, hname⟩
      exact absurd (sessionName_injective hname) (Nat.ne_of_lt hm)

end Tracker

/-- What a governor asks of a tracker that counts and of the shared store. -/
def StoreBacked.counting (listing : Value → Except Fault (List Issue)) : StoreBacked Nat where
  settings := .standard
  shelf := .shared
  tracker := .counting listing

/-- A governor with a cap of its own that looks after some projects of such a tracker. -/
def Governor.counting (projects : List Value) (cap : Int)
    (listing : Value → Except Fault (List Issue)) : Governor Nat where
  __ := Governor.standard (StoreBacked.counting listing)
  settings := { Settings.standard with projects, maxConcurrentDispatches := cap }
  escalation := some .standard

lemma Governor.isSteady_counting (projects : List Value) (cap : Int)
    (listing : Value → Except Fault (List Issue)) :
    (Governor.counting projects cap listing).IsSteady (b := .counting listing)
      (Tracker.steadyCounting listing) where
  collaborators := rfl
  onScanComplete _ := .pure ()
  onError _ := .pure ()

/-- A world in which an issue has precedence over the others and no session has been placed yet. -/
def World.preferring (issueId : String) : World Nat where
  clock := 0
  store := {
    overrides := [{ issueId, directive := { kind := .priority, priority := some .high } }] }
  outside := 0

lemma World.isReady_preferring (listing : Value → Except Fault (List Issue)) (issueId : String) :
    (World.preferring issueId).IsReady (b := .counting listing)
      (Tracker.steadyCounting listing) where
  missing := rfl
  clock := rfl
  fresh _ _ := ⟨rfl, rfl⟩

end IssueDispatch
