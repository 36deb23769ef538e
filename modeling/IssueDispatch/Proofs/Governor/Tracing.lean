import IssueDispatch.Governor.Scan
import IssueDispatch.Proofs.Governor.Ranking
import IssueDispatch.Proofs.Run
import Mathlib.Data.List.Basic

/-!
# What a scan does, step by step

The result of a scan counts the dispatches of a project and names what was skipped and what failed,
but it does not tell which issues were dispatched and in what order.  `Governor.pass` does the same
to the issues of a project as a scan and keeps a record, a `Pass`: what the evaluation of each
listed issue gave, what each dispatch gave that was tried, and which issues were left out.  The
result of a scan is read off that record (`Governor.scanProject_of_list`), so what is proved about
records holds of scans.

An issue may stand in a list more than once, so the record names the place of an issue in the list
beside the issue itself.
-/

namespace IssueDispatch

variable {ω : Type}

/-! ## Records -/

/-- A failure that a scan meets, with the issue and its place in the list. -/
structure Failure where
  issue : Issue
  position : Nat
  fault : Fault

/-- A failure as the result of a scan notes it. -/
def Failure.error (f : Failure) : ScanError := ⟨f.issue.identifier, f.fault.message⟩

/-- An issue that calls for an action, with its place in the list. -/
structure Candidate extends Actionable where
  position : Nat

/-- The order of dispatches: by the rank of the override. -/
def Candidate.rankLe (a b : Candidate) : Bool :=
  Actionable.rankLe a.toActionable b.toActionable

/-- A listed issue, its place in the list, and what its evaluation gave. -/
structure Judged where
  issue : Issue
  position : Nat
  verdict : Except Fault (Decision × Option OverridePriority)

namespace Judged

/-- The issue as it is dispatched, if it calls for an action. -/
def candidate? (j : Judged) : Option Candidate :=
  match j.verdict with
  | .error _ => none
  | .ok (.skip _, _) => none
  | .ok (decision, priority) => some ⟨⟨j.issue, decision, priority⟩, j.position⟩

/-- Why nothing is done with the issue. -/
def skip? (j : Judged) : Option (String × SkipReason) :=
  match j.verdict with
  | .ok (.skip reason, _) => some (j.issue.identifier, reason)
  | _ => none

/-- The failure to evaluate the issue. -/
def failure? (j : Judged) : Option Failure :=
  match j.verdict with
  | .error fault => some ⟨j.issue, j.position, fault⟩
  | .ok _ => none

end Judged

/-- A dispatch that was tried and what it gave. -/
structure Attempt where
  candidate : Candidate
  outcome : Except Fault Unit

namespace Attempt

/-- The issue, if it was dispatched. -/
def dispatched? (t : Attempt) : Option Candidate :=
  match t.outcome with
  | .ok () => some t.candidate
  | .error _ => none

/-- Whether the issue was dispatched. -/
def isDispatched (t : Attempt) : Bool := t.dispatched?.isSome

/-- An issue that has become busy is skipped. -/
def skip? (t : Attempt) : Option (String × SkipReason) :=
  match t.outcome with
  | .error (.issueBusy ..) => some (t.candidate.issue.identifier, .activeSession)
  | _ => none

/-- The failure to dispatch the issue, if there is another cause than that it is busy. -/
def failure? (t : Attempt) : Option Failure :=
  match t.outcome with
  | .ok () => none
  | .error (.issueBusy ..) => none
  | .error fault => some ⟨t.candidate.issue, t.candidate.position, fault⟩

/-- The number of dispatches that succeeded. -/
def successes (ts : List Attempt) : Nat := ts.countP Attempt.isDispatched

lemma successes_cons (t : Attempt) (ts : List Attempt) :
    successes (t :: ts) = (if t.isDispatched then 1 else 0) + successes ts := by
  rw [successes, List.countP_cons, Nat.add_comm]
  rfl

end Attempt

/-- What is noted about an issue for which there is no room. -/
def Candidate.limitSkip (a : Candidate) : String × SkipReason :=
  (a.issue.identifier, .dispatchLimit)

/-- The record of a pass over the issues of a project: what their evaluations gave in the order of
the list, the dispatches in the order in which they were tried, and the issues left out. -/
structure Pass where
  judged : List Judged
  attempts : List Attempt
  leftOut : List Candidate

/-- Notes reasons one after the other. -/
def ScanResult.addReasons (entries known : List (String × SkipReason)) :
    List (String × SkipReason) :=
  entries.foldl (fun known e => addReason e.1 e.2 known) known

/-- Notes reasons, failures and a number of dispatches. -/
def ScanResult.noting (r : ScanResult) (skips : List (String × SkipReason))
    (failures : List Failure) (dispatches : Nat) : ScanResult :=
  { r with
    actionsDispatched := r.actionsDispatched + dispatches
    skippedReasons := addReasons skips r.skippedReasons
    errors := r.errors ++ failures.map Failure.error }

namespace Pass

/-- The issues that call for an action, in the order of the list. -/
def candidates (p : Pass) : List Candidate := p.judged.filterMap Judged.candidate?

/-- What was dispatched, in the order of the dispatches. -/
def dispatched (p : Pass) : List Candidate :=
  p.attempts.filterMap Attempt.dispatched?

/-- What was skipped, in the order in which it was noted. -/
def skips (p : Pass) : List (String × SkipReason) :=
  p.judged.filterMap Judged.skip? ++ p.attempts.filterMap Attempt.skip? ++
    p.leftOut.map Candidate.limitSkip

/-- The failures in the order in which they were met. -/
def failures (p : Pass) : List Failure :=
  p.judged.filterMap Judged.failure? ++ p.attempts.filterMap Attempt.failure?

/-- The result of a scan that does the same. -/
def result (project : Value) (p : Pass) : ScanResult :=
  ScanResult.noting { project, scannedIssues := p.judged.length } p.skips p.failures
    p.dispatched.length

end Pass

namespace Governor

/-- Evaluates an issue at a place of the list. -/
def judge (g : Governor ω) (listed : Issue × Nat) : Run (World ω) Judged := do
  return ⟨listed.1, listed.2, ← Run.attempt (g.evaluate listed.1)⟩

/-- Tries to dispatch an issue. -/
def tryOut (g : Governor ω) (a : Candidate) : Run (World ω) Attempt := do
  return ⟨a, ← Run.attempt (g.dispatch a.issue a.decision)⟩

/-- Tries to dispatch issues one after the other until there is no room for another one.  Gives what
was tried and what was left out. -/
def tryUpTo (g : Governor ω) : Int → List Candidate → Run (World ω) (List Attempt × List Candidate)
  | _, [] => return ([], [])
  | room, a :: rest =>
    if room ≤ 0 then return ([], a :: rest)
    else do
      let t ← g.tryOut a
      let (ts, later) ← g.tryUpTo (if t.isDispatched then room - 1 else room) rest
      return (t :: ts, later)

/-- Does to the issues of a project what a scan does, and keeps a record. -/
def pass (g : Governor ω) (issues : List Issue) : Run (World ω) Pass := do
  let judged ← issues.zipIdx.mapM g.judge
  let sorted := (judged.filterMap Judged.candidate?).mergeSort Candidate.rankLe
  let (attempts, leftOut) ← g.tryUpTo g.settings.maxConcurrentDispatches sorted
  return ⟨judged, attempts, leftOut⟩

end Governor

/-! ## What is noted -/

namespace ScanResult

variable {r : ScanResult}

@[simp] lemma noting_nil (r : ScanResult) : r.noting [] [] 0 = r := by
  simp [noting, addReasons]

lemma noting_noting (r : ScanResult) (skips skips' : List (String × SkipReason))
    (failures failures' : List Failure) (n n' : Nat) :
    (r.noting skips failures n).noting skips' failures' n' =
      r.noting (skips ++ skips') (failures ++ failures') (n + n') := by
  simp [noting, addReasons, Nat.add_assoc]

lemma skip_eq_noting (r : ScanResult) (identifier : String) (reason : SkipReason) :
    r.skip identifier reason = r.noting [(identifier, reason)] [] 0 := by
  simp [noting, addReasons, skip]

lemma fail_eq_noting (r : ScanResult) (f : Failure) :
    r.fail f.issue.identifier f.fault = r.noting [] [f] 0 := by
  simp [noting, addReasons, fail, Failure.error]

/-- What is noted about a dispatch that was tried. -/
lemma noting_attempt (r : ScanResult) (t : Attempt) :
    r.noting t.skip?.toList t.failure?.toList (if t.isDispatched then 1 else 0) =
      match t.outcome with
      | .ok () => r.dispatched
      | .error (.issueBusy ..) => r.skip t.candidate.issue.identifier .activeSession
      | .error fault => r.fail t.candidate.issue.identifier fault := by
  obtain ⟨a, fault | _⟩ := t
  · cases fault with
    | issueBusy issueId identifier => exact (r.skip_eq_noting _ _).symm
    | _ => exact (r.fail_eq_noting ⟨a.issue, a.position, _⟩).symm
  · simp [noting, addReasons, dispatched, Attempt.isDispatched, Attempt.dispatched?,
      Attempt.skip?, Attempt.failure?]

end ScanResult

/-! ## Evaluations -/

/-- What is taken from a list is taken from its head first. -/
lemma filterMap_cons_toList {α β : Type} (f : α → Option β) (a : α) (as : List α) :
    (a :: as).filterMap f = (f a).toList ++ as.filterMap f := by
  rw [List.filterMap_cons]
  cases f a <;> rfl

namespace Governor

variable {g : Governor ω}

@[simp] lemma judge_apply (g : Governor ω) (listed : Issue × Nat) (w : World ω) :
    g.judge listed w =
      (.ok ⟨listed.1, listed.2, (g.evaluate listed.1 w).1⟩, (g.evaluate listed.1 w).2) := rfl

@[simp] lemma tryOut_apply (g : Governor ω) (a : Candidate) (w : World ω) :
    g.tryOut a w = (.ok ⟨a, (g.dispatch a.issue a.decision w).1⟩,
      (g.dispatch a.issue a.decision w).2) := rfl

/-- To try out an issue is to ask for the action and the kind of work that have been decided. -/
lemma tryOut_eq {a : Candidate} {action : Action} {workType : WorkType} {reason : DispatchReason}
    (h : a.decision = .dispatch action workType reason) :
    g.tryOut a =
      (do return ⟨a, ← Run.attempt (g.collaborators.dispatch a.issue action workType)⟩) := by
  rw [tryOut, h, dispatch]

/-- What a scan does with the first issue of a list. -/
lemma evaluateAll_cons (g : Governor ω) (issue : Issue) (k : Nat) (rest : List Issue)
    (r : ScanResult) (w : World ω) {j : Judged} {v : World ω}
    (hj : g.judge (issue, k) w = (.ok j, v)) :
    g.evaluateAll (issue :: rest) r w =
      (do let (actionable, r) ← g.evaluateAll rest (r.noting j.skip?.toList j.failure?.toList 0)
          return (j.candidate?.toList.map Candidate.toActionable ++ actionable, r)
        : Run (World ω) _) v := by
  obtain ⟨hrecord, rfl⟩ := Prod.mk.inj ((judge_apply g (issue, k) w).symm.trans hj)
  obtain rfl := Except.ok.inj hrecord
  rw [evaluateAll, Run.bind_of_ok (Run.attempt_apply _ w)]
  dsimp only [Judged.candidate?, Judged.skip?, Judged.failure?]
  rcases (g.evaluate issue w).1 with fault | ⟨decision, priority⟩
  · have hnoted := r.fail_eq_noting ⟨issue, k, fault⟩
    dsimp only at hnoted ⊢
    rw [hnoted]
    exact congrFun (bind_pure (g.evaluateAll rest _)).symm _
  · cases decision with
    | skip reason =>
      dsimp only
      rw [r.skip_eq_noting]
      exact congrFun (bind_pure (g.evaluateAll rest _)).symm _
    | dispatch action workType reason =>
      dsimp only [Option.toList]
      rw [ScanResult.noting_nil]
      rfl

/-- All listed issues are evaluated, and a scan notes what the record says about them. -/
lemma exists_judged (g : Governor ω) (issues : List Issue) (k : Nat) (r : ScanResult)
    (w : World ω) :
    ∃ judged v, (issues.zipIdx k).mapM g.judge w = (.ok judged, v) ∧
      judged.map (fun j => (j.issue, j.position)) = issues.zipIdx k ∧
      g.evaluateAll issues r w =
        (.ok ((judged.filterMap Judged.candidate?).map Candidate.toActionable,
          r.noting (judged.filterMap Judged.skip?) (judged.filterMap Judged.failure?) 0), v) := by
  induction issues generalizing k r w with
  | nil => exact ⟨[], w, rfl, rfl, by simp [evaluateAll]⟩
  | cons issue rest ih =>
    have hj := judge_apply g (issue, k) w
    generalize hjudged : (⟨(issue, k).1, (issue, k).2, (g.evaluate (issue, k).1 w).1⟩ : Judged) = j
      at hj
    obtain ⟨judged, v, hall, hplaces, hnoted⟩ :=
      ih (k + 1) (r.noting j.skip?.toList j.failure?.toList 0) (g.evaluate issue w).2
    refine ⟨j :: judged, v, ?_, ?_, ?_⟩
    · rw [List.zipIdx_cons, List.mapM_cons, Run.bind_of_ok hj, Run.bind_of_ok hall]
      rfl
    · rw [List.map_cons, hplaces, ← hjudged, List.zipIdx_cons]
    · rw [evaluateAll_cons g issue k rest r w hj, Run.bind_of_ok hnoted, ScanResult.noting_noting]
      simp only [filterMap_cons_toList, List.map_append]
      rfl

end Governor

/-! ## Dispatches -/

/-- What was dispatched is what was tried. -/
lemma Attempt.candidate_of_dispatched? {t : Attempt} {a : Candidate} (h : t.dispatched? = some a) :
    t.candidate = a := by
  rw [dispatched?] at h
  split at h
  · exact Option.some.inj h
  · cases h

/-- Of some candidates as many have been tried, in their order, as it takes to fill the room. -/
structure FillsRoom (room : Int) (candidates : List Candidate) (attempts : List Attempt)
    (leftOut : List Candidate) : Prop where
  split : attempts.map Attempt.candidate ++ leftOut = candidates
  roomBefore : ∀ k < attempts.length, (Attempt.successes (attempts.take k) : Int) < room
  full : leftOut ≠ [] → room ≤ Attempt.successes attempts

/-- Candidates that have been sorted are tried or left out, each of them once. -/
lemma FillsRoom.perm {room : Int} {candidates leftOut : List Candidate} {ts : List Attempt}
    (h : FillsRoom room (candidates.mergeSort Candidate.rankLe) ts leftOut) :
    (ts.map Attempt.candidate ++ leftOut).Perm candidates := by
  rw [h.split]
  exact List.mergeSort_perm _ _

/-- If there is room, the first candidate is tried, and takes up room only if it is dispatched. -/
lemma FillsRoom.cons {room : Int} {rest leftOut : List Candidate} {ts : List Attempt} {t : Attempt}
    (hroom : 0 < room)
    (h : FillsRoom (if t.isDispatched then room - 1 else room) rest ts leftOut) :
    FillsRoom room (t.candidate :: rest) (t :: ts) leftOut where
  split := by rw [List.map_cons, List.cons_append, h.split]
  roomBefore k hk := by
    cases k with
    | zero => simpa [Attempt.successes] using hroom
    | succ k =>
      have hbefore := h.roomBefore k (Nat.lt_of_succ_lt_succ hk)
      rw [List.take_succ_cons, Attempt.successes_cons]
      split at hbefore
      · simp_all; omega
      · simp_all
  full hleft := by
    have hfull := h.full hleft
    rw [Attempt.successes_cons]
    split at hfull
    · simp_all; omega
    · simp_all

namespace Governor

variable {g : Governor ω}

/-- When the cap has been reached, everything else is noted as left out. -/
lemma dispatchAll_of_full {r : ScanResult}
    (h : g.settings.maxConcurrentDispatches ≤ (r.actionsDispatched : Int))
    (candidates : List Candidate) (w : World ω) :
    g.dispatchAll (candidates.map Candidate.toActionable) r w =
      (.ok (r.noting (candidates.map Candidate.limitSkip) [] 0), w) := by
  induction candidates generalizing r with
  | nil => simp [dispatchAll]
  | cons a rest ih =>
    rw [List.map_cons, dispatchAll, if_pos h, r.skip_eq_noting]
    have hsame : (r.noting [(a.issue.identifier, .dispatchLimit)] [] 0).actionsDispatched =
        r.actionsDispatched := rfl
    rw [ih (by rw [hsame]; exact h), ScanResult.noting_noting]
    rfl

/-- What a scan does with a candidate for which there is room. -/
lemma dispatchAll_cons_of_room {r : ScanResult}
    (h : ¬ g.settings.maxConcurrentDispatches ≤ (r.actionsDispatched : Int)) (a : Candidate)
    (rest : List Actionable) (w : World ω) {t : Attempt} {v : World ω}
    (ht : g.tryOut a w = (.ok t, v)) :
    g.dispatchAll (a.toActionable :: rest) r w =
      g.dispatchAll rest (r.noting t.skip?.toList t.failure?.toList
        (if t.isDispatched then 1 else 0)) v := by
  obtain ⟨hrecord, rfl⟩ := Prod.mk.inj ((tryOut_apply g a w).symm.trans ht)
  obtain rfl := Except.ok.inj hrecord
  rw [dispatchAll, if_neg h, Run.bind_of_ok (Run.attempt_apply _ w)]
  rw [r.noting_attempt]
  dsimp only
  rcases (g.dispatch a.issue a.decision w).1 with fault | _
  · cases fault <;> rfl
  · rfl

/-- Candidates are tried until there is no more room, and a scan notes what the record says about
them. -/
lemma exists_tried (g : Governor ω) (candidates : List Candidate) (r : ScanResult) (w : World ω)
    {room : Int} (hroom : room = g.settings.maxConcurrentDispatches - r.actionsDispatched) :
    ∃ attempts leftOut u, g.tryUpTo room candidates w = (.ok (attempts, leftOut), u) ∧
      FillsRoom room candidates attempts leftOut ∧
      (attempts.map Attempt.candidate).mapM g.tryOut w = (.ok attempts, u) ∧
      g.dispatchAll (candidates.map Candidate.toActionable) r w =
        (.ok (r.noting (attempts.filterMap Attempt.skip? ++ leftOut.map Candidate.limitSkip)
          (attempts.filterMap Attempt.failure?) (Attempt.successes attempts)), u) := by
  induction candidates generalizing r w room with
  | nil =>
    refine ⟨[], [], w, rfl, ⟨rfl, ?_, fun h => absurd rfl h⟩, rfl, ?_⟩
    · intro k hk
      cases hk
    · simp [dispatchAll, Attempt.successes]
  | cons a rest ih =>
    by_cases hfull : room ≤ 0
    · have hcap : g.settings.maxConcurrentDispatches ≤ (r.actionsDispatched : Int) := by omega
      refine ⟨[], a :: rest, w, ?_, ⟨rfl, ?_, fun _ => ?_⟩, rfl, ?_⟩
      · rw [tryUpTo, if_pos hfull]
        rfl
      · intro k hk
        cases hk
      · simpa [Attempt.successes] using hfull
      · simpa [Attempt.successes] using dispatchAll_of_full hcap (a :: rest) w
    · have hcap : ¬ g.settings.maxConcurrentDispatches ≤ (r.actionsDispatched : Int) := by omega
      rcases ht : g.tryOut a w with ⟨e | t, v⟩
      · exact nomatch (Prod.mk.inj (ht.symm.trans (tryOut_apply g a w))).1
      obtain rfl : t.candidate = a := by
        rw [tryOut_apply] at ht
        exact congrArg Attempt.candidate (Except.ok.inj (Prod.mk.inj ht).1).symm
      let noted : ScanResult := r.noting t.skip?.toList t.failure?.toList
        (if t.isDispatched then 1 else 0)
      have hroom' : (if t.isDispatched then room - 1 else room) =
          g.settings.maxConcurrentDispatches - noted.actionsDispatched := by
        simp only [noted, ScanResult.noting]
        split <;> simp <;> omega
      obtain ⟨ts, leftOut, u, htried, hfills, hattempted, hnoted⟩ := ih noted v hroom'
      refine ⟨t :: ts, leftOut, u, ?_, hfills.cons (by omega), ?_, ?_⟩
      · rw [tryUpTo, if_neg hfull, Run.bind_of_ok ht, Run.bind_of_ok htried]
        rfl
      · rw [List.map_cons, List.mapM_cons, Run.bind_of_ok ht, Run.bind_of_ok hattempted]
        rfl
      · rw [List.map_cons, dispatchAll_cons_of_room hcap t.candidate _ w ht, hnoted,
          ScanResult.noting_noting, Attempt.successes_cons]
        simp only [filterMap_cons_toList, List.append_assoc]

/-! ## Projects -/

/-- A record is that of a pass over the issues of a project, from one world to another: every listed
issue was evaluated, then the candidates were tried in the order of their ranks. -/
structure Passes (g : Governor ω) (issues : List Issue) (w : World ω) (p : Pass) (u : World ω) :
    Prop where
  run : g.pass issues w = (.ok p, u)
  listed : p.judged.map (fun j => (j.issue, j.position)) = issues.zipIdx
  calls : ∃ v, issues.zipIdx.mapM g.judge w = (.ok p.judged, v) ∧
    (p.attempts.map Attempt.candidate).mapM g.tryOut v = (.ok p.attempts, u)
  fills : FillsRoom g.settings.maxConcurrentDispatches (p.candidates.mergeSort Candidate.rankLe)
    p.attempts p.leftOut

/-- The evaluated issues are the listed ones. -/
lemma Passes.map_issue {g : Governor ω} {issues : List Issue} {p : Pass} {w u : World ω}
    (h : g.Passes issues w p u) : p.judged.map Judged.issue = issues := by
  have hissues := congrArg (List.map Prod.fst) h.listed
  rw [List.map_map, List.zipIdx_map_fst] at hissues
  exact hissues

lemma length_dispatched (p : Pass) : p.dispatched.length = Attempt.successes p.attempts := by
  rw [Pass.dispatched, List.length_filterMap_eq_countP]
  rfl

/-- A scan of listed issues leads where a pass over them leads, and its result is read off the
record. -/
lemma exists_passes (g : Governor ω) (project : Value) (issues : List Issue) (w : World ω) :
    ∃ p u, g.Passes issues w p u ∧
      (do let (actionable, r) ← g.evaluateAll issues { project, scannedIssues := issues.length }
          g.dispatchAll (actionable.mergeSort Actionable.rankLe) r : Run (World ω) _) w =
        (.ok (p.result project), u) := by
  let r : ScanResult := { project, scannedIssues := issues.length }
  obtain ⟨judged, v, hjudged, hlisted, hevaluated⟩ := g.exists_judged issues 0 r w
  let r' : ScanResult := r.noting (judged.filterMap Judged.skip?)
    (judged.filterMap Judged.failure?) 0
  have hroom : g.settings.maxConcurrentDispatches =
      g.settings.maxConcurrentDispatches - r'.actionsDispatched := by
    simp [r', r, ScanResult.noting]
  obtain ⟨attempts, leftOut, u, htried, hfills, hattempted, hdispatched⟩ := g.exists_tried
    ((judged.filterMap Judged.candidate?).mergeSort Candidate.rankLe) r' v hroom
  have hsorted : ((judged.filterMap Judged.candidate?).mergeSort Candidate.rankLe).map
      Candidate.toActionable =
        ((judged.filterMap Judged.candidate?).map Candidate.toActionable).mergeSort
          Actionable.rankLe :=
    List.map_mergeSort fun _ _ _ _ => rfl
  let p : Pass := ⟨judged, attempts, leftOut⟩
  refine ⟨p, u, ⟨?_, hlisted, ⟨v, hjudged, hattempted⟩, hfills⟩, ?_⟩
  · rw [pass, Run.bind_of_ok hjudged, Run.bind_of_ok htried]
    rfl
  · have hlength : issues.length = judged.length := by
      have hlengths := congrArg List.length hlisted
      rw [List.length_map, List.length_zipIdx] at hlengths
      exact hlengths.symm
    rw [Run.bind_of_ok hevaluated]
    dsimp only
    rw [← hsorted, hdispatched, ScanResult.noting_noting, Nat.zero_add, ← length_dispatched p]
    simp only [p, r, hlength, Pass.result, Pass.skips, Pass.failures, List.append_assoc]

variable {project : Value} {w v : World ω}

/-- A project whose issues are listed is scanned in a pass over them. -/
lemma scanProject_of_list {issues : List Issue}
    (hlist : g.collaborators.listIssues project w = (.ok (some issues), v)) :
    ∃ p u, g.Passes issues v p u ∧ g.scanProject project w = (.ok (p.result project), u) := by
  obtain ⟨p, u, hpass, hscan⟩ := g.exists_passes project issues v
  refine ⟨p, u, hpass, ?_⟩
  rw [scanProject, Run.bind_of_ok (Run.attempt_apply _ w), hlist]
  exact hscan

/-- A project whose issues cannot be listed is noted with the failure. -/
lemma scanProject_of_error {fault : Fault}
    (hlist : g.collaborators.listIssues project w = (.error fault, v)) :
    g.scanProject project w =
      (.ok { project, errors := [⟨"project:" ++ project.text, fault.message⟩] }, v) := by
  rw [scanProject, Run.bind_of_ok (Run.attempt_apply _ w), hlist]
  rfl

end Governor

end IssueDispatch
