import IssueDispatch.Proofs.Governor.Selection
import IssueDispatch.Proofs.Governor.Surveying

/-!
# Failures are contained

A failure to list the issues of a project, to evaluate an issue or to dispatch it changes nothing
about the others.  To say so, a scan is compared with another one: in the same world, of the same
governor, but with lists from which everything that failed has been left out, that is the issues of
projects that could not be listed and the issues that could not be evaluated or dispatched.  The
other scan meets no failure, and otherwise it does and notes the same.

Two facts carry the comparison.  A failed dispatch takes up no room, so that without it the others
still fill the room (`FillsRoom.filter`).  And how many candidates are tried depends on nothing but
their order and their outcomes (`FillsRoom.unique`), which stay the same when others are left out.
The places of issues in the lists differ between the scans, so records are compared without them.
-/

namespace IssueDispatch

variable {ω : Type}

/-! ## Reading lists -/

section Reading

variable {α β : Type} {as bs : List α} {read : α → Option β}

/-- What does not depend on some detail is read alike off lists that differ in nothing else. -/
lemma filterMap_eq_of_map_eq {forget : α → α} (hread : ∀ a, read (forget a) = read a)
    (h : as.map forget = bs.map forget) : as.filterMap read = bs.filterMap read := by
  have hforget (cs : List α) : cs.filterMap read = (cs.map forget).filterMap read := by
    rw [List.filterMap_map]
    exact List.filterMap_congr fun c _ => (hread c).symm
  rw [hforget as, h, ← hforget bs]

/-- Entries from which nothing is read may be left out. -/
lemma filterMap_filter_of_none {keep : α → Bool}
    (h : ∀ a ∈ as, keep a = false → read a = none) :
    (as.filter keep).filterMap read = as.filterMap read := by
  rw [List.filterMap_filter]
  refine List.filterMap_congr fun a ha => ?_
  cases hkeep : keep a with
  | false => exact (h a ha hkeep).symm
  | true => rfl

end Reading

/-! ## Records without places -/

/-- What an evaluation gave, wherever the issue was listed. -/
def Judged.unplaced (j : Judged) : Judged := { j with position := 0 }

/-- What a dispatch gave, wherever the issue was listed. -/
def Attempt.unplaced (t : Attempt) : Attempt :=
  { t with candidate := { t.candidate with position := 0 } }

namespace Judged

/-- What is done with an issue does not depend on its place. -/
lemma candidate?_unplaced (j : Judged) :
    j.unplaced.candidate?.map Candidate.toActionable =
      j.candidate?.map Candidate.toActionable := by
  obtain ⟨issue, k, fault | ⟨reason | _, priority⟩⟩ := j <;> rfl

lemma skip?_unplaced (j : Judged) : j.unplaced.skip? = j.skip? := rfl

lemma failure?_unplaced (j : Judged) :
    j.unplaced.failure?.isNone = j.failure?.isNone := by
  obtain ⟨issue, k, fault | _⟩ := j <;> rfl

/-- An issue whose evaluation failed is no candidate and is not skipped. -/
lemma of_failure? {j : Judged} (h : j.failure?.isSome = true) :
    j.candidate? = none ∧ j.skip? = none := by
  obtain ⟨issue, k, fault | _⟩ := j
  · exact ⟨rfl, rfl⟩
  · cases h

lemma skip?_of_candidate? {j : Judged} {a : Candidate} (h : j.candidate? = some a) :
    j.skip? = none := by
  obtain ⟨issue, k, fault | ⟨reason | _, priority⟩⟩ := j
  · cases h
  · cases h
  · rfl

/-- A failure is noted with the place of its issue. -/
lemma position_of_failure? {j : Judged} {f : Failure} (h : j.failure? = some f) :
    f.position = j.position := by
  obtain ⟨issue, k, fault | _⟩ := j
  · obtain rfl := Option.some.inj h
    rfl
  · cases h

end Judged

namespace Attempt

lemma dispatched?_unplaced (t : Attempt) :
    t.unplaced.dispatched?.map Candidate.toActionable =
      t.dispatched?.map Candidate.toActionable := by
  obtain ⟨a, fault | _⟩ := t <;> rfl

lemma isDispatched_unplaced (t : Attempt) : t.unplaced.isDispatched = t.isDispatched := by
  obtain ⟨a, fault | _⟩ := t <;> rfl

lemma skip?_unplaced (t : Attempt) : t.unplaced.skip? = t.skip? := rfl

lemma failure?_unplaced (t : Attempt) :
    t.unplaced.failure?.isNone = t.failure?.isNone := by
  obtain ⟨a, fault | _⟩ := t
  · cases fault <;> rfl
  · rfl

/-- A dispatch that succeeded has not failed, and neither has one that found its issue busy. -/
lemma failure?_eq_none_of_isDispatched {t : Attempt} (h : t.isDispatched = true) :
    t.failure? = none := by
  obtain ⟨a, fault | _⟩ := t
  · cases h
  · rfl

lemma failure?_eq_none_of_skip? {t : Attempt} (h : t.skip?.isSome = true) :
    t.failure? = none := by
  obtain ⟨a, fault | _⟩ := t
  · cases fault <;> first | rfl | cases h
  · cases h

lemma position_of_failure? {t : Attempt} {f : Failure} (h : t.failure? = some f) :
    f.position = t.candidate.position := by
  obtain ⟨a, fault | _⟩ := t
  · cases fault <;> cases h <;> rfl
  · cases h

lemma successes_map_unplaced (ts : List Attempt) :
    successes (ts.map unplaced) = successes ts := by
  rw [successes, List.countP_map]
  exact List.countP_congr fun t _ => by rw [Function.comp_apply, isDispatched_unplaced]

end Attempt

/-! ## Rooms that are filled -/

namespace FillsRoom

variable {room : Int} {as as' : List Candidate} {ts ts' : List Attempt}
  {leftOut leftOut' : List Candidate}

/-- Before each candidate that was tried there was room. -/
lemma roomBefore_of_append (h : FillsRoom room as ts leftOut) {before after : List Attempt}
    {t : Attempt} (hts : ts = before ++ t :: after) : (Attempt.successes before : Int) < room := by
  have hroom := h.roomBefore before.length (by rw [hts]; simp)
  rwa [hts, List.take_left] at hroom

/-- What was not dispatched took up no room, so the others fill it as well. -/
lemma filter (h : FillsRoom room as ts leftOut) {keep : Attempt → Bool}
    (hkeep : ∀ t, t.isDispatched = true → keep t = true) :
    FillsRoom room ((ts.filter keep).map Attempt.candidate ++ leftOut) (ts.filter keep)
      leftOut := by
  have hcount (ts : List Attempt) : Attempt.successes (ts.filter keep) = Attempt.successes ts := by
    rw [Attempt.successes, List.countP_filter]
    refine List.countP_congr fun t _ => ?_
    simpa using hkeep t
  refine ⟨rfl, fun k hk => ?_, fun hleft => ?_⟩
  · -- What is kept before an entry stands before it in the whole list too, where there was room.
    have hsplit := List.take_append_drop k (ts.filter keep)
    rw [List.drop_eq_getElem_cons hk] at hsplit
    obtain ⟨before, rest, hts, hbefore, hrest⟩ := List.filter_eq_append_iff.1 hsplit.symm
    obtain ⟨between, after, hsplit', -, -, -⟩ := List.filter_eq_cons_iff.1 hrest
    rw [← hbefore, hcount]
    rw [hsplit', ← List.append_assoc] at hts
    have hroom := h.roomBefore_of_append hts
    have hmore : Attempt.successes before ≤ Attempt.successes (before ++ between) := by
      rw [Attempt.successes, Attempt.successes, List.countP_append]
      exact Nat.le_add_right _ _
    omega
  · rw [hcount]
    exact h.full hleft

section Unique

variable (outcome : Actionable → Except Fault Unit)

/-- What the dispatches of some candidates give. -/
lemma map_unplaced_eq (h : FillsRoom room as ts leftOut)
    (houtcome : ∀ t ∈ ts, t.outcome = outcome t.candidate.toActionable) :
    ts.map Attempt.unplaced =
      ((as.map Candidate.toActionable).take ts.length).map fun a => ⟨⟨a, 0⟩, outcome a⟩ := by
  rw [← h.split, List.map_append, List.map_map,
    List.take_left' (by rw [List.length_map]), List.map_map]
  refine List.map_congr_left fun t ht => ?_
  rw [Attempt.unplaced, houtcome t ht]
  rfl

/-- If the same is dispatched with the same outcomes, there is room for no more of it. -/
lemma length_le (h : FillsRoom room as ts leftOut) (h' : FillsRoom room as' ts' leftOut')
    (hsame : as.map Candidate.toActionable = as'.map Candidate.toActionable)
    (houtcome : ∀ t ∈ ts, t.outcome = outcome t.candidate.toActionable)
    (houtcome' : ∀ t ∈ ts', t.outcome = outcome t.candidate.toActionable) :
    ts'.length ≤ ts.length := by
  by_contra hmore
  rw [Nat.not_le] at hmore
  have hlengths : ts.length + leftOut.length = ts'.length + leftOut'.length := by
    have hlength := congrArg List.length hsame
    rw [← h.split, ← h'.split] at hlength
    simpa using hlength
  have hleft : leftOut ≠ [] := by
    rintro rfl
    rw [List.length_nil] at hlengths
    omega
  -- Where the first attempts have filled the room, the others have had the same outcomes.
  have hbeginning : (ts'.take ts.length).map Attempt.unplaced = ts.map Attempt.unplaced := by
    rw [List.map_take, h'.map_unplaced_eq outcome houtcome', h.map_unplaced_eq outcome houtcome,
      ← List.map_take, List.take_take, Nat.min_eq_left (Nat.le_of_lt hmore), hsame]
  have hroom := h'.roomBefore ts.length hmore
  rw [← Attempt.successes_map_unplaced, hbeginning, Attempt.successes_map_unplaced] at hroom
  have hfull := h.full hleft
  omega

/-- How many candidates are tried depends on nothing but their order and their outcomes. -/
lemma unique (h : FillsRoom room as ts leftOut) (h' : FillsRoom room as' ts' leftOut')
    (hsame : as.map Candidate.toActionable = as'.map Candidate.toActionable)
    (houtcome : ∀ t ∈ ts, t.outcome = outcome t.candidate.toActionable)
    (houtcome' : ∀ t ∈ ts', t.outcome = outcome t.candidate.toActionable) :
    ts.map Attempt.unplaced = ts'.map Attempt.unplaced ∧
      leftOut.map Candidate.toActionable = leftOut'.map Candidate.toActionable := by
  have hlength : ts.length = ts'.length :=
    Nat.le_antisymm (h'.length_le outcome h hsame.symm houtcome' houtcome)
      (h.length_le outcome h' hsame houtcome houtcome')
  constructor
  · rw [h.map_unplaced_eq outcome houtcome, h'.map_unplaced_eq outcome houtcome', hsame, hlength]
  · rw [← h.split, ← h'.split, List.map_append, List.map_append] at hsame
    exact (List.append_inj hsame (by simpa using hlength)).2

end Unique

end FillsRoom

/-! ## What has failed -/

namespace Pass

/-- Whether a failure has been met about the issue at a place of the list. -/
def failsAt (p : Pass) (position : Nat) : Bool := p.failures.any (·.position == position)

/-- The listed issues without those that could not be evaluated or dispatched.  An issue that is
listed twice may fail at one of its places and stay at the other one, if there is no room to try it
again. -/
def spared (p : Pass) : List Issue :=
  (p.judged.filter fun j => !p.failsAt j.position).map Judged.issue

/-- What is noted as a failure at a place of the list comes from an entry with that place. -/
lemma any_position_iff {α : Type} {failure? : α → Option Failure} {position : α → Nat}
    (hposition : ∀ {a : α} {f : Failure}, failure? a = some f → f.position = position a)
    {as : List α} {k : Nat} :
    (as.filterMap failure?).any (·.position == k) = true ↔
      ∃ a ∈ as, (failure? a).isSome = true ∧ position a = k := by
  rw [List.any_eq_true]
  constructor
  · rintro ⟨f, hf, hk⟩
    obtain ⟨a, ha, hfailed⟩ := List.mem_filterMap.1 hf
    refine ⟨a, ha, by rw [hfailed]; rfl, ?_⟩
    rw [← hposition hfailed, ← beq_iff_eq]
    exact hk
  · rintro ⟨a, ha, hfailed, hk⟩
    obtain ⟨f, hf⟩ := Option.isSome_iff_exists.1 hfailed
    refine ⟨f, List.mem_filterMap.2 ⟨a, ha, hf⟩, ?_⟩
    rw [beq_iff_eq, hposition hf, hk]

/-- A failure is met in an evaluation or in a dispatch. -/
lemma failsAt_iff {p : Pass} {position : Nat} :
    p.failsAt position = true ↔
      (∃ j ∈ p.judged, j.failure?.isSome = true ∧ j.position = position) ∨
        ∃ t ∈ p.attempts, t.failure?.isSome = true ∧ t.candidate.position = position := by
  rw [failsAt, failures, List.any_append, Bool.or_eq_true,
    any_position_iff Judged.position_of_failure?, any_position_iff Attempt.position_of_failure?]

end Pass

namespace Governor

variable {g : Governor ω} {w : World ω} {issues : List Issue} {p p' : Pass}

namespace Determines

lemma listed (h : g.Determines w issues p) :
    p.judged.map (fun j => (j.issue, j.position)) = issues.zipIdx := by
  rw [h.judged, List.map_map]
  exact List.map_id' _

/-- No two listed issues have the same place. -/
lemma eq_of_position (h : g.Determines w issues p) {j k : Judged} (hj : j ∈ p.judged)
    (hk : k ∈ p.judged) (hposition : j.position = k.position) : j = k := by
  have hrange := congrArg (List.map Prod.snd) h.listed
  rw [List.map_map, List.zipIdx_map_snd] at hrange
  have hnodup : (p.judged.map Judged.position).Nodup := hrange ▸ List.nodup_range' 1
  exact List.inj_on_of_nodup_map hnodup hj hk hposition

/-- What was tried and what was left out stands in the list, each at a place of its own. -/
lemma nodup_position (h : g.Determines w issues p) :
    (p.attempts.map (fun t => t.candidate.position) ++
      p.leftOut.map Candidate.position).Nodup := by
  have hplaces : (p.candidates.map Candidate.position).Nodup :=
    List.pairwise_map.2 ((Pass.pairwise_candidates h.listed).imp Nat.ne_of_lt)
  have hsame := (h.fills.perm.map Candidate.position).nodup_iff.2 hplaces
  rwa [List.map_append, List.map_map] at hsame

/-- Whatever was tried or left out is a listed issue that calls for an action. -/
lemma exists_judged_of_mem (h : g.Determines w issues p) {a : Candidate}
    (ha : a ∈ p.attempts.map Attempt.candidate ++ p.leftOut) :
    ∃ j ∈ p.judged, j.candidate? = some a ∧ j.position = a.position := by
  obtain ⟨j, hj, hcandidate⟩ := List.mem_filterMap.1 (h.fills.perm.subset ha)
  exact ⟨j, hj, hcandidate, (Judged.of_candidate? hcandidate).2.symm⟩

/-- The evaluation of a candidate has not failed. -/
lemma failure?_of_mem (h : g.Determines w issues p) {a : Candidate}
    (ha : a ∈ p.attempts.map Attempt.candidate ++ p.leftOut) {j : Judged} (hj : j ∈ p.judged)
    (hposition : j.position = a.position) : j.failure?.isSome = false := by
  obtain ⟨k, hk, hcandidate, hplace⟩ := h.exists_judged_of_mem ha
  obtain rfl := h.eq_of_position hj hk (hposition.trans hplace.symm)
  by_contra hfailed
  rw [(Judged.of_failure? (eq_true_of_ne_false hfailed)).1] at hcandidate
  cases hcandidate

/-- A dispatch that was tried is noted as a failure only if it failed itself. -/
lemma failsAt_attempt (h : g.Determines w issues p) {t : Attempt} (ht : t ∈ p.attempts) :
    p.failsAt t.candidate.position = t.failure?.isSome := by
  rw [Bool.eq_iff_iff, Pass.failsAt_iff]
  refine ⟨?_, fun hfailed => Or.inr ⟨t, ht, hfailed, rfl⟩⟩
  rintro (⟨j, hj, hfailed, hposition⟩ | ⟨t', ht', hfailed, hposition⟩)
  · have hmem := List.mem_append_left p.leftOut (List.mem_map_of_mem (f := Attempt.candidate) ht)
    rw [h.failure?_of_mem hmem hj hposition] at hfailed
    cases hfailed
  · obtain rfl := List.inj_on_of_nodup_map (List.nodup_append.1 h.nodup_position).1 ht' ht hposition
    exact hfailed

/-- About what was left out no failure is noted. -/
lemma failsAt_leftOut (h : g.Determines w issues p) {a : Candidate} (ha : a ∈ p.leftOut) :
    p.failsAt a.position = false := by
  rw [← Bool.not_eq_true, Pass.failsAt_iff]
  rintro (⟨j, hj, hfailed, hposition⟩ | ⟨t, ht, -, hposition⟩)
  · rw [h.failure?_of_mem (List.mem_append_right _ ha) hj hposition] at hfailed
    cases hfailed
  · exact (List.nodup_append.1 h.nodup_position).2.2 _ (List.mem_map_of_mem ht) _
      (List.mem_map_of_mem ha) hposition

/-- An issue about which a failure is noted was not skipped. -/
lemma skip?_of_failsAt (h : g.Determines w issues p) {j : Judged} (hj : j ∈ p.judged)
    (hfails : p.failsAt j.position = true) : j.skip? = none := by
  rcases Pass.failsAt_iff.1 hfails with ⟨k, hk, hfailed, hposition⟩ | ⟨t, ht, -, hposition⟩
  · obtain rfl := h.eq_of_position hk hj hposition
    exact (Judged.of_failure? hfailed).2
  · obtain ⟨k, hk, hcandidate, hplace⟩ := h.exists_judged_of_mem
      (List.mem_append_left p.leftOut (List.mem_map_of_mem (f := Attempt.candidate) ht))
    obtain rfl := h.eq_of_position hk hj (hplace.trans hposition)
    exact Judged.skip?_of_candidate? hcandidate

/-! ## Lists without failures -/

/-- Of the candidates in the order of dispatches, those without failures. -/
lemma filter_mergeSort (h : g.Determines w issues p) :
    (p.candidates.filter fun a => !p.failsAt a.position).mergeSort Candidate.rankLe =
      (p.attempts.filter fun t => t.failure?.isNone).map Attempt.candidate ++ p.leftOut := by
  rw [← Sorting.filter_mergeSort_comm Candidate.rankLe_trans Candidate.rankLe_total,
    ← h.fills.split, List.filter_append, List.filter_map]
  congr 1
  · refine congrArg _ (List.filter_congr fun t ht => ?_)
    rw [Function.comp_apply, h.failsAt_attempt ht, Option.not_isSome]
  · refine List.filter_eq_self.2 fun a ha => ?_
    rw [h.failsAt_leftOut ha]
    rfl

/-- The evaluations of the issues that are left give what they gave before. -/
lemma map_unplaced_judged (h : g.Determines w issues p) (h' : g.Determines w p.spared p') :
    p'.judged.map Judged.unplaced =
      (p.judged.filter fun j => !p.failsAt j.position).map Judged.unplaced := by
  have hverdict (j : Judged) (hj : j ∈ p.judged) :
      j.unplaced = ⟨j.issue, 0, (g.evaluate j.issue w).1⟩ := by
    rw [h.judged] at hj
    obtain ⟨listed, -, rfl⟩ := List.mem_map.1 hj
    rfl
  have hissues : p'.judged.map Judged.unplaced =
      p.spared.map fun issue => ⟨issue, 0, (g.evaluate issue w).1⟩ := by
    rw [h'.judged, List.map_map]
    conv_rhs => rw [← List.zipIdx_map_fst 0 p.spared, List.map_map]
    rfl
  rw [hissues, Pass.spared, List.map_map]
  exact List.map_congr_left fun j hj => (hverdict j (List.mem_filter.1 hj).1).symm

/-- The candidates that are left are those without failures. -/
lemma map_candidates (h : g.Determines w issues p) (h' : g.Determines w p.spared p') :
    p'.candidates.map Candidate.toActionable =
      (p.candidates.filter fun a => !p.failsAt a.position).map Candidate.toActionable := by
  have hkept : (p.judged.filter fun j => !p.failsAt j.position).filterMap Judged.candidate? =
      p.candidates.filter fun a => !p.failsAt a.position := by
    rw [Pass.candidates, List.filter_filterMap, List.filterMap_filter]
    refine List.filterMap_congr fun j _ => ?_
    cases hcandidate : j.candidate? with
    | none => simp
    | some a => simp [Option.filter, (Judged.of_candidate? hcandidate).2]
  rw [← hkept, Pass.candidates, List.map_filterMap, List.map_filterMap]
  exact filterMap_eq_of_map_eq Judged.candidate?_unplaced (h.map_unplaced_judged h')

/-- What is tried of the issues that are left is what was tried without failing, and the same is
left out. -/
lemma attempts_and_leftOut (h : g.Determines w issues p) (h' : g.Determines w p.spared p') :
    p'.attempts.map Attempt.unplaced =
        (p.attempts.filter fun t => t.failure?.isNone).map Attempt.unplaced ∧
      p'.leftOut.map Candidate.toActionable = p.leftOut.map Candidate.toActionable := by
  have hsort (as : List Candidate) : (as.mergeSort Candidate.rankLe).map Candidate.toActionable =
      (as.map Candidate.toActionable).mergeSort Actionable.rankLe :=
    List.map_mergeSort fun _ _ _ _ => rfl
  have hsorted : (p'.candidates.mergeSort Candidate.rankLe).map Candidate.toActionable =
      ((p.attempts.filter fun t => t.failure?.isNone).map Attempt.candidate ++ p.leftOut).map
        Candidate.toActionable := by
    rw [← h.filter_mergeSort, hsort, hsort, h.map_candidates h']
  have hdispatched (t : Attempt) (ht : t.isDispatched = true) : t.failure?.isNone = true := by
    rw [Attempt.failure?_eq_none_of_isDispatched ht]
    rfl
  exact h'.fills.unique (fun a => (g.dispatch a.issue a.decision w).1)
    (h.fills.filter hdispatched) hsorted h'.outcome
    fun t ht => h.outcome t (List.mem_filter.1 ht).1

lemma map_dispatched (h : g.Determines w issues p) (h' : g.Determines w p.spared p') :
    p'.dispatched.map Candidate.toActionable = p.dispatched.map Candidate.toActionable := by
  have hkept : (p.attempts.filter fun t => t.failure?.isNone).filterMap Attempt.dispatched? =
      p.dispatched := by
    refine filterMap_filter_of_none fun t _ hfailed => ?_
    by_contra hdispatched
    have hsome : t.isDispatched = true := Option.isSome_iff_ne_none.2 hdispatched
    rw [Attempt.failure?_eq_none_of_isDispatched hsome] at hfailed
    cases hfailed
  rw [← hkept, Pass.dispatched, List.map_filterMap, List.map_filterMap]
  exact filterMap_eq_of_map_eq Attempt.dispatched?_unplaced (h.attempts_and_leftOut h').1

lemma skips_eq (h : g.Determines w issues p) (h' : g.Determines w p.spared p') :
    p'.skips = p.skips := by
  obtain ⟨hattempts, hleftOut⟩ := h.attempts_and_leftOut h'
  have hjudged : p'.judged.filterMap Judged.skip? = p.judged.filterMap Judged.skip? := by
    refine (filterMap_eq_of_map_eq Judged.skip?_unplaced (h.map_unplaced_judged h')).trans ?_
    refine filterMap_filter_of_none fun j hj hfails => ?_
    exact h.skip?_of_failsAt hj (by simpa using hfails)
  have hbusy : p'.attempts.filterMap Attempt.skip? = p.attempts.filterMap Attempt.skip? := by
    refine (filterMap_eq_of_map_eq Attempt.skip?_unplaced hattempts).trans ?_
    refine filterMap_filter_of_none fun t _ hfailed => ?_
    by_contra hskip
    rw [Attempt.failure?_eq_none_of_skip? (Option.isSome_iff_ne_none.2 hskip)] at hfailed
    cases hfailed
  have hlimit : p'.leftOut.map Candidate.limitSkip = p.leftOut.map Candidate.limitSkip := by
    have hnames := congrArg
      (List.map fun a : Actionable => (a.issue.identifier, SkipReason.dispatchLimit)) hleftOut
    rwa [List.map_map, List.map_map] at hnames
  rw [Pass.skips, Pass.skips, hjudged, hbusy, hlimit]

lemma failures_eq_nil (h : g.Determines w issues p) (h' : g.Determines w p.spared p') :
    p'.failures = [] := by
  have hevaluated (j : Judged) (hj : j ∈ p'.judged) : j.failure? = none := by
    have hmem := List.mem_map_of_mem (f := Judged.unplaced) hj
    rw [h.map_unplaced_judged h'] at hmem
    obtain ⟨k, hk, hsame⟩ := List.mem_map.1 hmem
    obtain ⟨hk, hkept⟩ := List.mem_filter.1 hk
    rw [← Option.isNone_iff_eq_none, ← j.failure?_unplaced, ← hsame, k.failure?_unplaced,
      ← Option.not_isSome, Bool.not_eq_true']
    by_contra hfailed
    rw [Pass.failsAt_iff.2 (Or.inl ⟨k, hk, eq_true_of_ne_false hfailed, rfl⟩)] at hkept
    cases hkept
  have htried (t : Attempt) (ht : t ∈ p'.attempts) : t.failure? = none := by
    have hmem := List.mem_map_of_mem (f := Attempt.unplaced) ht
    rw [(h.attempts_and_leftOut h').1] at hmem
    obtain ⟨k, hk, hsame⟩ := List.mem_map.1 hmem
    rw [← Option.isNone_iff_eq_none, ← t.failure?_unplaced, ← hsame, k.failure?_unplaced]
    exact (List.mem_filter.1 hk).2
  rw [Pass.failures, List.filterMap_eq_nil_iff.2 hevaluated,
    List.filterMap_eq_nil_iff.2 htried, List.append_nil]

end Determines

/-! ## Two scans -/

/-- The same governor where given issues are listed. -/
def listing (g : Governor ω) (lists : Value → List Issue) : Governor ω :=
  { g with collaborators :=
      { g.collaborators with listIssues := fun project => return some (lists project) } }

section Listing

variable {P : World ω → Prop} {lists : Value → List Issue}

/-- Lists that are given do not change either. -/
lemma IsConstantOn.listing (h : g.IsConstantOn P) (lists : Value → List Issue) :
    (g.listing lists).IsConstantOn P where
  clock := h.clock
  collaborators := {
    listIssues project := .pure (some (lists project))
    answers issueId := { h.collaborators.answers issueId with }
    dispatch := h.collaborators.dispatch }
  awaiting := h.awaiting

/-- The lists make no difference to what is determined by a list. -/
lemma Determines.of_listing (h : (g.listing lists).Determines w issues p) :
    g.Determines w issues p := ⟨h.judged, h.outcome, h.fills⟩

/-- A project with a given list is found as that list makes it be. -/
lemma Finds.of_listing {r : ProjectRecord} (h : (g.listing lists).Finds w r) :
    g.Determines w (lists r.project) r.pass ∧
      r.result.errors = r.pass.failures.map Failure.error := by
  cases h with
  | unlisted hlist => cases hlist
  | listed hlist hpass =>
    obtain rfl := Option.some.inj (Except.ok.inj hlist)
    exact ⟨hpass.of_listing, rfl⟩

end Listing

/-- A scan that meets failures does not fail, and it does the same as one whose lists are without
the projects and issues that failed: it dispatches the same, as often in each project, and skips the
same for the same reasons.  Only the errors are its own.  There is one about every project that
cannot be listed, and one about every issue that cannot be evaluated or dispatched, in the order in
which they are met. -/
theorem scan_contains_failures {P : World ω → Prop} (hidle : g.id ∉ w.scanning)
    (hconstant : g.IsConstantOn P) (hstart : P (g.outset w))
    (hlists : ∀ project ∈ g.settings.projects,
      (g.collaborators.listIssues project (g.outset w)).1 ≠ .ok none) :
    ∃ (rs rs' : List ProjectRecord) (lists : Value → List Issue),
      (g.survey (g.underway w)).1 = .ok rs ∧
      (g.scan w).1 = .ok (rs.map ProjectRecord.result) ∧
      ((g.listing lists).survey (g.underway w)).1 = .ok rs' ∧
      ((g.listing lists).scan w).1 = .ok (rs'.map ProjectRecord.result) ∧
      rs.map ProjectRecord.project = g.settings.projects ∧
      rs'.map ProjectRecord.project = g.settings.projects ∧
      (∀ r ∈ rs, g.Finds (g.outset w) r ∧ r.result.errors = g.errorsAt (g.outset w) r ∧
        lists r.project = r.pass.spared) ∧
      (rs'.flatMap fun r => r.pass.dispatched).map Candidate.toActionable =
        (rs.flatMap fun r => r.pass.dispatched).map Candidate.toActionable ∧
      (rs'.map fun r => r.result.actionsDispatched) = rs.map (fun r => r.result.actionsDispatched) ∧
      (rs'.map fun r => r.result.skippedReasons) = rs.map (fun r => r.result.skippedReasons) ∧
      ∀ r ∈ rs', r.result.errors = [] := by
  let record := g.recordAt (g.outset w)
  let lists (project : Value) : List Issue := (record project).pass.spared
  let record' := (g.listing lists).recordAt (g.outset w)
  obtain ⟨hsurvey, hfound⟩ := hconstant.survey_eq rfl hstart hlists
  have houtset : (g.listing lists).outset w = g.outset w := rfl
  obtain ⟨hsurvey', hfound'⟩ := (hconstant.listing lists).survey_eq houtset hstart
    fun project _ => nofun
  -- Project by project the two records are compared, and then the lists of them.
  have hsame (project : Value) (hmem : project ∈ g.settings.projects) :
      (record' project).pass.dispatched.map Candidate.toActionable =
          (record project).pass.dispatched.map Candidate.toActionable ∧
        (record' project).pass.skips = (record project).pass.skips ∧
        (record' project).result.errors = [] := by
    obtain ⟨issues, hpass⟩ := (hfound project hmem).2.exists_determines
    obtain ⟨hproject, hfinds⟩ := hfound' project hmem
    obtain ⟨hpass', herrors⟩ := hfinds.of_listing
    rw [hproject] at hpass'
    rw [hpass.failures_eq_nil hpass', List.map_nil] at herrors
    exact ⟨hpass.map_dispatched hpass', hpass.skips_eq hpass', herrors⟩
  have hmap {β : Type} {read : ProjectRecord → β} (hread : ∀ project ∈ g.settings.projects,
      read (record' project) = read (record project)) :
      (g.settings.projects.map record').map read = (g.settings.projects.map record).map read := by
    rw [List.map_map, List.map_map]
    exact List.map_congr_left hread
  have hprojects {record : Value → ProjectRecord}
      (hproject : ∀ project ∈ g.settings.projects, (record project).project = project) :
      (g.settings.projects.map record).map ProjectRecord.project = g.settings.projects := by
    rw [List.map_map]
    exact (List.map_congr_left hproject).trans (List.map_id _)
  refine ⟨g.settings.projects.map record, g.settings.projects.map record', lists, hsurvey,
    scan_of_survey hidle hsurvey, hsurvey', scan_of_survey (g := g.listing lists) hidle hsurvey',
    ?_, ?_, ?_, ?_, ?_, ?_, ?_⟩
  · exact hprojects fun project hmem => (hfound project hmem).1
  · exact hprojects fun project hmem => (hfound' project hmem).1
  · intro r hr
    obtain ⟨project, hmem, rfl⟩ := List.mem_map.1 hr
    obtain ⟨hproject, hfinds⟩ := hfound project hmem
    exact ⟨hfinds, hfinds.errors_eq, congrArg lists hproject⟩
  · rw [List.map_flatMap, List.map_flatMap, List.flatMap_map, List.flatMap_map]
    exact List.flatMap_congr fun project hmem => (hsame project hmem).1
  · refine hmap fun project hmem => ?_
    have hlength := congrArg List.length (hsame project hmem).1
    rw [List.length_map, List.length_map] at hlength
    rw [ProjectRecord.result_actionsDispatched, ProjectRecord.result_actionsDispatched, hlength]
  · refine hmap fun project hmem => ?_
    rw [ProjectRecord.result_skippedReasons, ProjectRecord.result_skippedReasons,
      (hsame project hmem).2.1]
  · intro r hr
    obtain ⟨project, hmem, rfl⟩ := List.mem_map.1 hr
    exact (hsame project hmem).2.2

end Governor

/-! ## Two projects with failures -/

/-- Collaborators that are given their answers do not change them. -/
lemma Collaborators.respect_given (issues : Value → Except Fault (List Issue))
    (priority : String → Except Fault (Option OverridePriority))
    (outcome : String → Except Fault Unit) (start : World (List String)) :
    (given issues priority outcome).Respect
      fun w v => start.OnlyOutside w ∧ start.OnlyOutside v where
  listIssues project := .ofExcept _
  answers issueId := {
    hasActiveSession := .pure false
    isWithinCooldown := .pure false
    isParentIssue := .pure false
    isHeld := .pure false
    overridePriority := .ofExcept (priority issueId)
    strategy := .pure none
    isResearchCompleted := .pure false
    isBacklogCreationCompleted := .pure false }
  dispatch issue action workType := by
    refine (Run.Respects.ofExcept (outcome issue.id)).bind fun _ => .modify ?_
    rintro _ _ ⟨⟨o, rfl⟩, o', rfl⟩
    exact ⟨⟨o ++ [issue.id], rfl⟩, o' ++ [issue.id], rfl⟩

namespace Governor

lemma isConstantOn_capped {projects : List String} {cap : Int} {c : Collaborators ω}
    {start : World ω} (h : c.Respect fun w v => start.OnlyOutside w ∧ start.OnlyOutside v) :
    (capped projects cap c).IsConstantOn start.OnlyOutside where
  clock := by
    rintro _ _ ⟨o, rfl⟩ ⟨o', rfl⟩
    rfl
  collaborators := h
  awaiting _ := .pure false

/-- A governor of two projects that dispatches one issue in each.  The first project cannot be
listed.  In the second one the first issue cannot be evaluated, the dispatch of the second one
fails, and the third one has become busy. -/
def containing : Governor (List String) :=
  .capped ["p", "q"] 1 <| .given
    (fun project => if project.text = "p" then .error (.external "p") else .ok fiveInBacklog)
    (fun id => if id = "a" then .error (.external "a") else .ok none)
    (fun id => if id = "b" then .error (.external "b") else
      if id = "c" then .error (.issueBusy "c" "c") else .ok ())

lemma isConstantOn_containing (start : World (List String)) :
    containing.IsConstantOn start.OnlyOutside :=
  isConstantOn_capped (Collaborators.respect_given _ _ _ start)

theorem scan_contains_failures_two :
    containing.id ∉ World.unnoted.scanning ∧
    containing.IsConstantOn (containing.outset .unnoted).OnlyOutside ∧
    (∀ project ∈ containing.settings.projects,
      (containing.collaborators.listIssues project (containing.outset .unnoted)).1 ≠ .ok none) ∧
    ∃ (rs rs' : List ProjectRecord) (lists : Value → List Issue),
      (containing.scan .unnoted).1 = .ok (rs.map ProjectRecord.result) ∧
      ((containing.listing lists).scan .unnoted).1 = .ok (rs'.map ProjectRecord.result) ∧
      rs.map ProjectRecord.project = [.str "p", .str "q"] ∧
      (∀ r ∈ rs, r.result.errors = containing.errorsAt (containing.outset .unnoted) r ∧
        lists r.project = r.pass.spared) ∧
      (rs'.flatMap fun r => r.pass.dispatched).map Candidate.toActionable =
        (rs.flatMap fun r => r.pass.dispatched).map Candidate.toActionable ∧
      (rs'.map fun r => r.result.skippedReasons) = rs.map (fun r => r.result.skippedReasons) ∧
      ∀ r ∈ rs', r.result.errors = [] := by
  have hidle : containing.id ∉ World.unnoted.scanning := List.not_mem_nil
  have hlists : ∀ project ∈ containing.settings.projects,
      (containing.collaborators.listIssues project (containing.outset .unnoted)).1 ≠ .ok none := by
    decide
  obtain ⟨rs, rs', lists, -, hscan, -, hscan', hprojects, -, hfound, hdispatched, -, hskipped,
    herrors⟩ := scan_contains_failures hidle (isConstantOn_containing _) (refl _) hlists
  exact ⟨hidle, isConstantOn_containing _, hlists, rs, rs', lists, hscan, hscan', hprojects,
    fun r hr => (hfound r hr).2, hdispatched, hskipped, herrors⟩

end Governor

end IssueDispatch
