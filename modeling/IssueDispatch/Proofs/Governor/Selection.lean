import IssueDispatch.Proofs.Decision
import IssueDispatch.Proofs.Governor.Tracing
import IssueDispatch.Proofs.Sorting
import IssueDispatch.Proofs.Standard
import Mathlib.Data.List.Nodup

/-!
# Which issues a scan dispatches

The issues of a project that call for an action are tried by the rank of their overrides, and those
of one rank in the order of the list, until as many have been dispatched as the cap allows.  A
dispatch that fails and one that finds its issue busy leave the room as it is, so what is tried is
the shortest beginning of the sorted list that holds enough successes.  The others are noted as
skipped because of the limit, and nothing else is noted so: no decision gives that reason, and what
is noted last about an identifier stands.
-/

namespace IssueDispatch

variable {ω : Type}

/-! ## Reasons that are noted -/

namespace ScanResult

variable {entries known : List (String × SkipReason)} {reason : SkipReason} {identifier : String}

/-- A reason that is noted takes the place of an earlier one and leaves the others as they are. -/
lemma lookup_addReason (noted : String) (reason : SkipReason)
    (known : List (String × SkipReason)) (identifier : String) :
    (addReason noted reason known).lookup identifier =
      if identifier = noted then some reason else known.lookup identifier := by
  have hother {name : String} (h : identifier ≠ name) : (identifier == name) = false :=
    beq_false_of_ne h
  induction known with
  | nil =>
    by_cases h : identifier = noted
    · simp [addReason, h]
    · simp [addReason, List.lookup_cons, hother h, h]
  | cons entry rest ih =>
    obtain ⟨name, earlier⟩ := entry
    rw [addReason]
    by_cases hname : name = noted
    · subst hname
      by_cases h : identifier = name
      · simp [h]
      · simp [List.lookup_cons, hother h, h]
    · by_cases h : identifier = name
      · simp [hname, h]
      · simp [List.lookup_cons, hname, hother h, ih]

/-- If only one reason is noted, it stands for everything it was noted for. -/
lemma lookup_addReasons_of_forall_eq (h : ∀ e ∈ entries, e.2 = reason) :
    (addReasons entries known).lookup identifier =
      if identifier ∈ entries.map Prod.fst then some reason else known.lookup identifier := by
  induction entries generalizing known with
  | nil => rfl
  | cons e rest ih =>
    obtain ⟨hfirst, hrest⟩ := List.forall_mem_cons.1 h
    change (addReasons rest (addReason e.1 e.2 known)).lookup identifier = _
    rw [ih hrest, lookup_addReason, hfirst, List.map_cons]
    by_cases hlater : identifier ∈ rest.map Prod.fst
    · simp [hlater]
    · by_cases hsame : identifier = e.1 <;> simp [hlater, hsame]

/-- A reason that is neither noted nor known stands for nothing. -/
lemma lookup_addReasons_ne (h : ∀ e ∈ entries, e.2 ≠ reason)
    (hknown : known.lookup identifier ≠ some reason) :
    (addReasons entries known).lookup identifier ≠ some reason := by
  induction entries generalizing known with
  | nil => exact hknown
  | cons e rest ih =>
    obtain ⟨hfirst, hrest⟩ := List.forall_mem_cons.1 h
    change (addReasons rest (addReason e.1 e.2 known)).lookup identifier ≠ _
    refine ih hrest ?_
    rw [lookup_addReason]
    split
    · simpa using hfirst
    · exact hknown

end ScanResult

namespace Governor

variable {g : Governor ω} {issues : List Issue} {p : Pass} {w u : World ω}

/-- No evaluation gives the reason that is kept for scans. -/
lemma evaluate_ne_dispatchLimit (issue : Issue) (w : World ω)
    (priority : Option OverridePriority) :
    (g.evaluate issue w).1 ≠ .ok (.skip .dispatchLimit, priority) := by
  intro h
  have hresult : g.evaluate issue w = (.ok (.skip .dispatchLimit, priority),
      (g.evaluate issue w).2) := Prod.ext h rfl
  obtain ⟨⟨ctx, _⟩, v, -, hrest⟩ := Run.exists_of_bind_eq_ok hresult
  obtain ⟨d, v', hdecide, hrest⟩ := Run.exists_of_bind_eq_ok hrest
  obtain rfl : d = .skip .dispatchLimit :=
    congrArg Prod.fst (Except.ok.inj (Prod.mk.inj hrest).1)
  exact decide_ne_dispatchLimit (Prod.mk.inj hdecide).1

/-- What is noted before anything is left out has other reasons than the limit. -/
lemma Passes.reason_ne_dispatchLimit (h : g.Passes issues w p u) {e : String × SkipReason}
    (he : e ∈ p.judged.filterMap Judged.skip? ++ p.attempts.filterMap Attempt.skip?) :
    e.2 ≠ .dispatchLimit := by
  rcases List.mem_append.1 he with he | he
  · obtain ⟨j, hj, hskip⟩ := List.mem_filterMap.1 he
    obtain ⟨v, hjudged, -⟩ := h.calls
    obtain ⟨listed, -, -, t, t', -, hjudge⟩ := Run.exists_of_mem_mapM hjudged hj
    obtain rfl := Except.ok.inj (Prod.mk.inj hjudge).1
    have hnever := evaluate_ne_dispatchLimit (g := g) listed.1 t
    intro hreason
    rw [Judged.skip?] at hskip
    split at hskip
    · rename_i reason priority hverdict
      obtain rfl := Option.some.inj hskip
      dsimp only at hreason hverdict
      exact hnever priority (hreason ▸ hverdict)
    · cases hskip
  · obtain ⟨t, -, hskip⟩ := List.mem_filterMap.1 he
    rw [Attempt.skip?] at hskip
    split at hskip
    · obtain rfl := Option.some.inj hskip
      simp
    · cases hskip

/-- Exactly the issues that were left out are noted with the limit. -/
lemma Passes.lookup_eq_dispatchLimit_iff (h : g.Passes issues w p u) (project : Value)
    (identifier : String) :
    (p.result project).skippedReasons.lookup identifier = some .dispatchLimit ↔
      ∃ a ∈ p.leftOut, a.issue.identifier = identifier := by
  have hbefore : (ScanResult.addReasons (p.judged.filterMap Judged.skip? ++
      p.attempts.filterMap Attempt.skip?) []).lookup identifier ≠ some .dispatchLimit :=
    ScanResult.lookup_addReasons_ne (fun e he => h.reason_ne_dispatchLimit he) (by simp)
  -- The limit is noted last, so nothing takes its place.
  have hsplit : (p.result project).skippedReasons =
      ScanResult.addReasons (p.leftOut.map Candidate.limitSkip) (ScanResult.addReasons
        (p.judged.filterMap Judged.skip? ++ p.attempts.filterMap Attempt.skip?) []) :=
    List.foldl_append
  have hreason (e : String × SkipReason) (he : e ∈ p.leftOut.map Candidate.limitSkip) :
      e.2 = .dispatchLimit := by
    obtain ⟨a, -, rfl⟩ := List.mem_map.1 he
    rfl
  rw [hsplit, ScanResult.lookup_addReasons_of_forall_eq hreason, List.map_map]
  split
  · rename_i hmem
    obtain ⟨a, ha, hid⟩ := List.mem_map.1 hmem
    exact iff_of_true rfl ⟨a, ha, hid⟩
  · rename_i hmem
    refine iff_of_false hbefore ?_
    rintro ⟨a, ha, hid⟩
    exact hmem (List.mem_map.2 ⟨a, ha, hid⟩)

end Governor

/-! ## The order of dispatches -/

namespace Candidate

/-- A candidate comes before another one: by the rank of its override, then by its place in the
list. -/
def Precedes (a b : Candidate) : Prop :=
  a.rank < b.rank ∨ a.rank = b.rank ∧ a.position < b.position

lemma rankLe_iff {a b : Candidate} : rankLe a b = true ↔ a.rank ≤ b.rank :=
  Actionable.rankLe_iff

lemma rankLe_trans (a b c : Candidate) (hab : rankLe a b = true) (hbc : rankLe b c = true) :
    rankLe a c = true :=
  Actionable.rankLe_trans _ _ _ hab hbc

lemma rankLe_total (a b : Candidate) : (rankLe a b || rankLe b a) = true :=
  Actionable.rankLe_total _ _

/-- Sorting candidates that stand in the order of their places puts them in the order of
dispatches. -/
lemma pairwise_mergeSort {as : List Candidate}
    (h : as.Pairwise fun a b => a.position < b.position) :
    (as.mergeSort rankLe).Pairwise Precedes := by
  refine (Sorting.pairwise_mergeSort_stable rankLe_trans rankLe_total h).imp ?_
  intro a b ⟨hle, hlisted⟩
  rw [rankLe_iff] at hle hlisted
  rcases Nat.lt_or_eq_of_le hle with hlower | hsame
  · exact Or.inl hlower
  · exact Or.inr ⟨hsame, hlisted (Nat.le_of_eq hsame.symm)⟩

end Candidate

namespace Judged

/-- A candidate stands where its issue stands. -/
lemma of_candidate? {j : Judged} {a : Candidate} (h : j.candidate? = some a) :
    a.issue = j.issue ∧ a.position = j.position := by
  rw [candidate?] at h
  split at h
  · cases h
  · cases h
  · obtain rfl := Option.some.inj h
    exact ⟨rfl, rfl⟩

/-- An issue is a candidate only if its evaluation calls for an action. -/
lemma exists_dispatch_of_candidate? {j : Judged} {a : Candidate} (h : j.candidate? = some a) :
    ∃ action workType reason, a.decision = .dispatch action workType reason := by
  rw [candidate?] at h
  split at h
  · cases h
  · cases h
  · rename_i decision priority hcalls _
    obtain rfl := Option.some.inj h
    cases decision with
    | skip reason => exact absurd rfl (hcalls reason)
    | dispatch action workType reason => exact ⟨action, workType, reason, rfl⟩

end Judged

/-- The candidates of a record stand in the order of their places. -/
lemma Pass.pairwise_candidates {p : Pass} {issues : List Issue}
    (h : p.judged.map (fun j => (j.issue, j.position)) = issues.zipIdx) :
    p.candidates.Pairwise fun a b => a.position < b.position := by
  have hplaces : (p.judged.map Judged.position).Pairwise (· < ·) := by
    have hrange := congrArg (List.map Prod.snd) h
    rw [List.map_map, List.zipIdx_map_snd] at hrange
    exact hrange ▸ List.pairwise_lt_range' 1
  refine (List.pairwise_map.1 hplaces).filterMap Judged.candidate? ?_
  intro j k hjk a ha b hb
  rwa [(Judged.of_candidate? ha).2, (Judged.of_candidate? hb).2]

/-- A record tells that a scan has tried the shortest beginning of the candidates, in the order of
dispatches, that holds as many successes as the cap allows, or all of them. -/
structure Pass.Selects (p : Pass) (cap : Int) : Prop where
  perm : (p.attempts.map Attempt.candidate ++ p.leftOut).Perm p.candidates
  sorted : (p.attempts.map Attempt.candidate ++ p.leftOut).Pairwise Candidate.Precedes
  shortest : ∀ k < p.attempts.length, (Attempt.successes (p.attempts.take k) : Int) < cap
  enough : p.leftOut ≠ [] → cap ≤ Attempt.successes p.attempts

namespace Pass.Selects

variable {p : Pass} {cap : Int}

/-- A cap below one leaves no room at all; otherwise no more is dispatched than it allows. -/
lemma successes_le (h : p.Selects cap) : (Attempt.successes p.attempts : Int) ≤ max cap 0 := by
  rcases List.eq_nil_or_concat p.attempts with hnone | ⟨earlier, last, hall⟩
  · rw [hnone]
    exact Int.le_max_right cap 0
  · have hroom := h.shortest earlier.length (by rw [hall]; simp)
    have hone : Attempt.successes p.attempts ≤ Attempt.successes earlier + 1 := by
      rw [hall, List.concat_eq_append, Attempt.successes, List.countP_append]
      exact Nat.add_le_add_left List.countP_le_length _
    rw [hall, List.concat_eq_append, List.take_left] at hroom
    omega

/-- What is dispatched comes before what is left out. -/
lemma precedes (h : p.Selects cap) {a b : Candidate} (ha : a ∈ p.dispatched)
    (hb : b ∈ p.leftOut) : a.Precedes b := by
  obtain ⟨t, ht, hdispatched⟩ := List.mem_filterMap.1 ha
  obtain rfl := Attempt.candidate_of_dispatched? hdispatched
  exact (List.pairwise_append.1 h.sorted).2.2 _ (List.mem_map_of_mem ht) b hb

end Pass.Selects

namespace Governor

variable {g : Governor ω} {project : Value} {issues : List Issue} {w v : World ω}

/-- Each candidate of a record is tried out by a call for the action and the kind of work that have
been decided for it. -/
lemma exists_tryOut_eq (g : Governor ω) {p : Pass} {a : Candidate} (ha : a ∈ p.candidates) :
    ∃ action workType reason, a.decision = .dispatch action workType reason ∧ g.tryOut a =
      (do return ⟨a, ← Run.attempt (g.collaborators.dispatch a.issue action workType)⟩) := by
  obtain ⟨j, -, hcandidate⟩ := List.mem_filterMap.1 ha
  obtain ⟨action, workType, reason, hdecision⟩ := Judged.exists_dispatch_of_candidate? hcandidate
  exact ⟨action, workType, reason, hdecision, tryOut_eq hdecision⟩

/-- A pass over the issues of a project selects as many as the cap of the project allows. -/
lemma Passes.selects {p : Pass} (h : g.Passes issues w p v) :
    p.Selects g.settings.maxConcurrentDispatches where
  perm := h.fills.perm
  sorted := by
    rw [h.fills.split]
    exact Candidate.pairwise_mergeSort (Pass.pairwise_candidates h.listed)
  shortest := h.fills.roomBefore
  enough := h.fills.full

/-- A scan of a project evaluates all listed issues and then dispatches those that call for an
action, in the order of their ranks and places, until the cap of the project is reached.  Each
dispatch that is tried asks for the action and the kind of work that have been decided.  Only
dispatches that succeed count.  Exactly the candidates that come after the last one that was tried
are noted as skipped because of the limit. -/
theorem scanProject_selects
    (hlist : g.collaborators.listIssues project w = (.ok (some issues), v)) :
    ∃ (p : Pass) (v' u : World ω), issues.zipIdx.mapM g.judge v = (.ok p.judged, v') ∧
      (p.attempts.map Attempt.candidate).mapM g.tryOut v' = (.ok p.attempts, u) ∧
      (∀ a ∈ p.candidates, ∃ action workType reason,
        a.decision = .dispatch action workType reason ∧ g.tryOut a =
          (do return ⟨a, ← Run.attempt (g.collaborators.dispatch a.issue action workType)⟩)) ∧
      g.scanProject project w = (.ok (p.result project), u) ∧
      p.Selects g.settings.maxConcurrentDispatches ∧
      (p.result project).actionsDispatched = Attempt.successes p.attempts ∧
      ((p.result project).actionsDispatched : Int) ≤ max g.settings.maxConcurrentDispatches 0 ∧
      (∀ identifier, ((p.result project).skippedReasons.lookup identifier).map
          SkipReason.message = some "dispatch limit reached" ↔
        ∃ a ∈ p.leftOut, a.issue.identifier = identifier) ∧
      ∀ a ∈ p.dispatched, ∀ b ∈ p.leftOut, a.Precedes b := by
  obtain ⟨p, u, hpass, hscan⟩ := scanProject_of_list hlist
  obtain ⟨v', hjudged, htried⟩ := hpass.calls
  have hselects := hpass.selects
  have hcount : (p.result project).actionsDispatched = Attempt.successes p.attempts := by
    rw [← length_dispatched]
    exact Nat.zero_add _
  refine ⟨p, v', u, hjudged, htried, fun a ha => exists_tryOut_eq g ha, hscan, hselects, hcount, ?_,
    fun identifier => ?_, ?_⟩
  · rw [hcount]
    exact hselects.successes_le
  · rw [← hpass.lookup_eq_dispatchLimit_iff project identifier, Option.map_eq_some_iff]
    simp only [SkipReason.message_eq_iff, exists_eq_right]
  · exact fun a ha b hb => hselects.precedes ha hb

/-- Five issues in the backlog. -/
def fiveInBacklog : List Issue := ["a", "b", "c", "d", "e"].map Issue.inBacklog

/-- A governor that dispatches one issue of them: the third one is the most urgent but fails, the
first one has become busy, and the fourth one cannot be evaluated. -/
def selecting : Governor (List String) :=
  .capped ["p"] 1 <| .given (fun _ => .ok fiveInBacklog)
    (fun id => if id = "c" then .ok (some .high) else if id = "d" then .error (.external "d")
      else .ok none)
    (fun id => if id = "c" then .error (.external "c") else
      if id = "a" then .error (.issueBusy "a" "a") else .ok ())

theorem scanProject_selects_one :
    selecting.collaborators.listIssues (.str "p") .unnoted = (.ok (some fiveInBacklog), .unnoted) ∧
    ∃ (p : Pass) (v' u : World (List String)),
      fiveInBacklog.zipIdx.mapM selecting.judge .unnoted = (.ok p.judged, v') ∧
      (p.attempts.map Attempt.candidate).mapM selecting.tryOut v' = (.ok p.attempts, u) ∧
      (∀ a ∈ p.candidates, ∃ action workType reason,
        a.decision = .dispatch action workType reason ∧ selecting.tryOut a =
          (do return ⟨a, ← Run.attempt (selecting.collaborators.dispatch a.issue action
            workType)⟩)) ∧
      selecting.scanProject (.str "p") .unnoted = (.ok (p.result (.str "p")), u) ∧
      p.Selects 1 ∧
      (p.result (.str "p")).actionsDispatched = Attempt.successes p.attempts ∧
      ((p.result (.str "p")).actionsDispatched : Int) ≤ max 1 0 ∧
      (∀ identifier, ((p.result (.str "p")).skippedReasons.lookup identifier).map
          SkipReason.message = some "dispatch limit reached" ↔
        ∃ a ∈ p.leftOut, a.issue.identifier = identifier) ∧
      ∀ a ∈ p.dispatched, ∀ b ∈ p.leftOut, a.Precedes b :=
  ⟨rfl, scanProject_selects rfl⟩

end Governor

end IssueDispatch
