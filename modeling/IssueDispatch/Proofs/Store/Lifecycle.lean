import IssueDispatch.Proofs.Number.Rounding
import IssueDispatch.Proofs.Store.Touchpoints
import Mathlib.Data.List.Nodup

/-!
# The life of a touchpoint

A touchpoint is posted open and is closed at most once, in one of two ways: somebody answers it, or
it is proceeded with by default.  `Touchpoint.Evolves` says what may become of a row,
`Store.TouchpointsGoOn` lifts this to stores, where every row stays at its place, and
`Store.TouchpointsInOrder` is the invariant that makes a number mean one row.

A touchpoint is due, `Touchpoint.IsDue`, when it is open, has a default action, and is past its
window.
-/

namespace IssueDispatch

namespace Touchpoint

variable {t u v : Touchpoint}

/-- What may become of a touchpoint: an open one may be closed in one way or in the other, and one
that is closed stays as it is. -/
inductive Evolves (t : Touchpoint) : Touchpoint → Prop
  | same : Evolves t t
  | answered (hopen : t.isOpen = true) (time : Binary64) :
      Evolves t { t with respondedAt := some time }
  | proceeded (hopen : t.isOpen = true) (time : Binary64) :
      Evolves t { t with autoProceededAt := some time }

namespace Evolves

lemma eq_of_closed (h : t.Evolves u) (hclosed : t.isOpen = false) : u = t := by
  cases h with
  | same => rfl
  | answered hopen => exact absurd hopen (Bool.eq_false_iff.1 hclosed)
  | proceeded hopen => exact absurd hopen (Bool.eq_false_iff.1 hclosed)

/-- A touchpoint that is still open is as it was posted. -/
lemma eq_of_isOpen (h : t.Evolves u) (hopen : u.isOpen = true) : u = t := by
  cases h with
  | same => rfl
  | answered => simp [isOpen] at hopen
  | proceeded => simp [isOpen] at hopen

protected lemma trans (h : t.Evolves u) (h' : u.Evolves v) : t.Evolves v := by
  cases hopen : u.isOpen with
  | true => exact h.eq_of_isOpen hopen ▸ h'
  | false => exact h'.eq_of_closed hopen ▸ h

lemma id (h : t.Evolves u) : u.id = t.id := by cases h <;> rfl

lemma postedAt (h : t.Evolves u) : u.postedAt = t.postedAt := by cases h <;> rfl

/-- What was closed once is not closed again. -/
lemma marks (h : t.Evolves u) (ht : t.respondedAt = none ∨ t.autoProceededAt = none) :
    u.respondedAt = none ∨ u.autoProceededAt = none := by
  cases h with
  | same => exact ht
  | answered hopen => exact Or.inr (by simp_all [isOpen])
  | proceeded hopen => exact Or.inl (by simp_all [isOpen])

end Evolves

/-- A touchpoint that is to be proceeded with by default at some time: it is open, of a kind that
has a default action, and past a finite window. -/
structure IsDue (t : Touchpoint) (now : Binary64) : Prop where
  isOpen : t.isOpen = true
  kind : t.kind = .reviewRequest ∨ t.kind = .decompositionProposal
  overdue : ∃ window, t.timeout = some window ∧ window.isFinite = true ∧ t.postedAt + window < now

lemma defaultAction?_isSome_iff (kind : TouchpointKind) :
    kind.defaultAction?.isSome = true ↔ kind = .reviewRequest ∨ kind = .decompositionProposal := by
  cases kind <;> simp [TouchpointKind.defaultAction?]

/-- What is due is what has timed out and has a default action. -/
lemma isDue_iff {now : Binary64} : t.IsDue now ↔ t.isOpen = true ∧
    t.kind.defaultAction?.isSome = true ∧ t.toNotification.hasTimedOut now = true := by
  have hover : t.isOpen = true → (t.toNotification.hasTimedOut now = true ↔
      ∃ window, t.timeout = some window ∧ window.isFinite = true ∧ t.postedAt + window < now) := by
    intro hopen
    have hanswer : t.respondedAt = none := by simp_all [isOpen]
    cases hwindow : t.timeout with
    | none => simp [Notification.hasTimedOut, toNotification, hwindow, Binary64.isFinite]
    | some window => simp [Notification.hasTimedOut, toNotification, hanswer, hwindow]
  rw [defaultAction?_isSome_iff]
  constructor
  · intro h
    exact ⟨h.isOpen, h.kind, (hover h.isOpen).2 h.overdue⟩
  · rintro ⟨hopen, hkind, h⟩
    exact ⟨hopen, hkind, (hover hopen).1 h⟩

/-- What is due at some time is due at any later one. -/
lemma IsDue.mono {now later : Binary64} (h : t.IsDue now) (hlater : now ≤ later) :
    t.IsDue later := by
  obtain ⟨window, hwindow, hfinite, hover⟩ := h.overdue
  exact ⟨h.isOpen, h.kind, window, hwindow, hfinite, Binary64.lt_of_lt_of_le hover hlater⟩

end Touchpoint

namespace Store

variable {s s' : Store}

/-- Every touchpoint stays in its place and evolves there. -/
def TouchpointsGoOn (s s' : Store) : Prop :=
  ∀ (i : Nat) (t : Touchpoint), s.touchpoints[i]? = some t →
    ∃ u, s'.touchpoints[i]? = some u ∧ t.Evolves u

instance : IsPreorder Store TouchpointsGoOn where
  refl _ _ t ht := ⟨t, ht, .same⟩
  trans _ _ _ h h' i t ht := by
    obtain ⟨u, hu, htu⟩ := h i t ht
    obtain ⟨v, hv, huv⟩ := h' i u hu
    exact ⟨v, hv, htu.trans huv⟩

/-- No table is missing, every touchpoint has a number and a time of its own, and none is closed
twice. -/
structure TouchpointsInOrder (s : Store) : Prop where
  missing : s.missing = []
  numbers : (s.touchpoints.map Touchpoint.id).Nodup
  known : ∀ t ∈ s.touchpoints, t.id ≤ s.lastTouchpoint
  times : ∀ t ∈ s.touchpoints, t.postedAt.isNaN = false
  marks : ∀ t ∈ s.touchpoints, t.respondedAt = none ∨ t.autoProceededAt = none

lemma touchpointsInOrder_of_nil (hmissing : s.missing = []) (hempty : s.touchpoints = []) :
    s.TouchpointsInOrder where
  missing := hmissing
  numbers := by
    rw [hempty]
    exact List.nodup_nil
  known t ht := absurd (hempty ▸ ht) List.not_mem_nil
  times t ht := absurd (hempty ▸ ht) List.not_mem_nil
  marks t ht := absurd (hempty ▸ ht) List.not_mem_nil

namespace TouchpointsInOrder

/-- A number belongs to one touchpoint. -/
lemma eq_of_id (h : s.TouchpointsInOrder) {t u : Touchpoint} (ht : t ∈ s.touchpoints)
    (hu : u ∈ s.touchpoints) (hid : t.id = u.id) : t = u :=
  List.inj_on_of_nodup_map h.numbers ht hu hid

/-- Whoever is closed is not open later on, under whatever time the question is asked. -/
lemma id_ne_of_closed (h : s.TouchpointsInOrder) {s₀ : Store} (hevolve : s₀.TouchpointsGoOn s)
    {t u : Touchpoint} (ht : t ∈ s₀.touchpoints) (hclosed : t.isOpen = false)
    (hu : u ∈ s.touchpoints) (hopen : u.isOpen = true) : u.id ≠ t.id := by
  intro hid
  obtain ⟨i, hi⟩ := List.mem_iff_getElem?.1 ht
  obtain ⟨t', ht', hevolves⟩ := hevolve i t hi
  have hsame : u = t' := h.eq_of_id hu (List.mem_of_getElem? ht') (hid.trans hevolves.id.symm)
  rw [hsame, hevolves.eq_of_closed hclosed, hclosed] at hopen
  cases hopen

end TouchpointsInOrder

/-- Touchpoints that are in order go on in order. -/
def CarriesOn (s s' : Store) : Prop :=
  s.TouchpointsInOrder → s'.TouchpointsInOrder ∧ s.TouchpointsGoOn s'

instance : IsPreorder Store CarriesOn where
  refl s h := ⟨h, refl s⟩
  trans s t u h h' hs := by
    obtain ⟨ht, hst⟩ := h hs
    obtain ⟨hu, htu⟩ := h' ht
    exact ⟨hu, trans_of TouchpointsGoOn hst htu⟩

/-- Nothing about touchpoints has changed. -/
structure SameTouchpoints (s s' : Store) : Prop where
  missing : s'.missing = s.missing
  touchpoints : s'.touchpoints = s.touchpoints
  lastTouchpoint : s'.lastTouchpoint = s.lastTouchpoint

instance : IsPreorder Store SameTouchpoints where
  refl _ := ⟨rfl, rfl, rfl⟩
  trans _ _ _ h h' := ⟨h'.missing.trans h.missing, h'.touchpoints.trans h.touchpoints,
    h'.lastTouchpoint.trans h.lastTouchpoint⟩

lemma CarriesOn.of_same (h : s.SameTouchpoints s') : s.CarriesOn s' := by
  refine fun hs => ⟨⟨?_, ?_, ?_, ?_, ?_⟩, fun i t ht => ⟨t, ?_, .same⟩⟩
  · rw [h.missing, hs.missing]
  · rw [h.touchpoints]
    exact hs.numbers
  · rw [h.touchpoints, h.lastTouchpoint]
    exact hs.known
  · rw [h.touchpoints]
    exact hs.times
  · rw [h.touchpoints]
    exact hs.marks
  · rwa [h.touchpoints]

/-- Open touchpoints are listed in the order in which they were posted. -/
lemma TouchpointsInOrder.pairwise_openTouchpoints (h : s.TouchpointsInOrder)
    (issueId : Option String) :
    (s.openTouchpoints issueId).Pairwise fun t u => t.postedAt ≤ u.postedAt := by
  let place (t : Touchpoint) : Int := t.postedAt.key?.getD 0
  let isBefore (t u : Touchpoint) : Bool := decide (place t ≤ place u)
  have hplace (t : Touchpoint) (ht : t ∈ s.touchpoints) : t.postedAt.key? = some (place t) := by
    obtain ⟨i, hi⟩ := Binary64.exists_key_of_isNaN (h.times t ht)
    rw [hi]
    exact congrArg some (by simp [place, hi])
  rw [openTouchpoints]
  generalize hchosen : s.touchpoints.filter _ = chosen
  have hmem (t : Touchpoint) (ht : t ∈ chosen) : t ∈ s.touchpoints :=
    (List.mem_filter.1 (hchosen ▸ ht)).1
  have hsort : chosen.mergeSort (fun a b => a.postedAt.le b.postedAt) =
      chosen.mergeSort isBefore := by
    -- Times that are numbers are compared as their places on the line are.
    have hmap := List.map_mergeSort (f := id) (l := chosen) (s := isBefore)
      (r := fun a b => a.postedAt.le b.postedAt) fun t ht u hu => by
        rw [Binary64.le, hplace t (hmem t ht), hplace u (hmem u hu)]
        rfl
    simpa using hmap
  have htrans (t u v : Touchpoint) (htu : isBefore t u = true) (huv : isBefore u v = true) :
      isBefore t v = true :=
    decide_eq_true (Int.le_trans (of_decide_eq_true htu) (of_decide_eq_true huv))
  have htotal (t u : Touchpoint) : (isBefore t u || isBefore u t) = true := by
    simpa [isBefore] using Int.le_total (place t) (place u)
  have hsorted := List.pairwise_mergeSort htrans htotal chosen
  rw [hsort]
  refine hsorted.imp_of_mem fun ht hu hle => ?_
  exact (Binary64.le_iff_of_key (hplace _ (hmem _ (List.mem_mergeSort.1 ht)))
    (hplace _ (hmem _ (List.mem_mergeSort.1 hu)))).2 (of_decide_eq_true hle)

/-! ### What is done to touchpoints -/

/-- Rows that evolve where they are stay in order. -/
lemma carriesOn_map {f : Touchpoint → Touchpoint}
    (hf : s.TouchpointsInOrder → ∀ t ∈ s.touchpoints, t.Evolves (f t)) :
    s.CarriesOn (s.withTouchpoints (s.touchpoints.map f)) := by
  intro h
  have hrows {P : Touchpoint → Prop} (hP : ∀ t ∈ s.touchpoints, P (f t)) :
      ∀ u ∈ s.touchpoints.map f, P u := by
    intro u hu
    obtain ⟨t, ht, rfl⟩ := List.mem_map.1 hu
    exact hP t ht
  have hids : (s.touchpoints.map f).map Touchpoint.id = s.touchpoints.map Touchpoint.id := by
    rw [List.map_map]
    exact List.map_congr_left fun t ht => (hf h t ht).id
  refine ⟨⟨h.missing, ?_, hrows fun t ht => ?_, hrows fun t ht => ?_, hrows fun t ht => ?_⟩, ?_⟩
  · exact hids ▸ h.numbers
  · exact (hf h t ht).id ▸ h.known t ht
  · exact (hf h t ht).postedAt ▸ h.times t ht
  · exact (hf h t ht).marks (h.marks t ht)
  · intro i t ht
    refine ⟨f t, ?_, hf h t (List.mem_of_getElem? ht)⟩
    rw [withTouchpoints, List.getElem?_map, ht]
    rfl

lemma markResponded_carriesOn (issueId : String) (time : Binary64) :
    (markResponded issueId time).Keeps CarriesOn := by
  refine changing_keeps _ fun s => carriesOn_map fun _ t _ => ?_
  split
  · rename_i hhit
    have hopen : t.isOpen = true := (Bool.and_eq_true_iff.1 hhit).2
    rcases htime : kept time with - | time
    · have hsame : { t with respondedAt := none } = t := by
        have hanswer : t.respondedAt = none := by simp_all [Touchpoint.isOpen]
        rw [← hanswer]
      rw [hsame]
      exact .same
    · exact .answered hopen time
  · exact .same

/-- A touchpoint that is posted gets the next number, and a time that is one. -/
lemma saveTouchpoint_carriesOn (issueId : String) (n : Notification) :
    (saveTouchpoint issueId n).Keeps CarriesOn := by
  refine Transaction.Keeps.atomically
    (Transaction.Keeps.bind (.of_eq fun _ _ _ => eq_of_requireTable) fun _ => ?_)
  by_cases htime : n.postedAt.isNaN = true
  · rw [if_pos htime]
    intro s a s' h
    cases h
  · rw [if_neg htime]
    refine Transaction.modifyGet_keeps fun s h => ⟨⟨h.missing, ?_, ?_, ?_, ?_⟩, ?_⟩
    · have hnew : s.lastTouchpoint + 1 ∉ s.touchpoints.map Touchpoint.id := by
        intro hmem
        obtain ⟨t, ht, hid⟩ := List.mem_map.1 hmem
        have := h.known t ht
        omega
      dsimp only
      rw [List.map_append]
      exact h.numbers.append (List.nodup_singleton _)
        (List.disjoint_singleton.2 hnew)
    · refine List.forall_mem_append.2 ⟨fun t ht => Nat.le_succ_of_le (h.known t ht), ?_⟩
      exact List.forall_mem_singleton.2 (Nat.le_refl _)
    · refine List.forall_mem_append.2 ⟨h.times, ?_⟩
      exact List.forall_mem_singleton.2 (Bool.eq_false_iff.2 htime)
    · exact List.forall_mem_append.2 ⟨h.marks, List.forall_mem_singleton.2 (Or.inl rfl)⟩
    · refine fun i t ht => ⟨t, ?_, .same⟩
      rw [List.getElem?_append_left (List.getElem?_eq_some_iff.1 ht).1, ht]

/-- Posting a touchpoint uses up one number at most. -/
lemma lastTouchpoint_saveTouchpoint_le (issueId : String) (n : Notification) (s : Store) :
    (saveTouchpoint issueId n s).2.lastTouchpoint ≤ s.lastTouchpoint + 1 := by
  by_cases hthere : Table.touchpoints ∈ s.missing
  · rw [saveTouchpoint, Run.atomically_error
      (Transaction.bind_of_error (requireTable_of_mem hthere))]
    exact Nat.le_succ _
  · rw [saveTouchpoint, Run.atomically,
      Transaction.bind_of_ok (requireTable_of_notMem hthere)]
    by_cases htime : n.postedAt.isNaN = true
    · rw [if_pos htime]
      exact Nat.le_succ _
    · rw [if_neg htime]
      exact Nat.le_refl _

/-- The store after the touchpoints with some numbers have been proceeded with. -/
def proceededWith (s : Store) (ids : List Int) (time : Binary64) : Store :=
  s.withTouchpoints (s.touchpoints.map fun t =>
    if (t.id : Int) ∈ ids then { t with autoProceededAt := kept time } else t)

@[simp] lemma proceededWith_nil (s : Store) (time : Binary64) : s.proceededWith [] time = s := by
  simp [proceededWith, withTouchpoints]

/-- Touchpoints that are proceeded with one after the other may as well be so at once. -/
lemma proceededWith_cons (s : Store) (id : Int) (ids : List Int) (time : Binary64) :
    s.proceededWith (id :: ids) time = (s.proceededWith [id] time).proceededWith ids time := by
  simp only [proceededWith, withTouchpoints, List.map_map]
  congr 1
  refine List.map_congr_left fun t _ => ?_
  by_cases hid : (t.id : Int) = id
  · simp [hid]
  · simp [hid]

/-- Open touchpoints may be proceeded with. -/
lemma carriesOn_proceededWith {ids : List Int} {time : Binary64} (htime : time.isNaN = false)
    (hopen : s.TouchpointsInOrder →
      ∀ t ∈ s.touchpoints, (t.id : Int) ∈ ids → t.isOpen = true) :
    s.CarriesOn (s.proceededWith ids time) := by
  refine carriesOn_map fun h t ht => ?_
  have hkept : kept time = some time := by simp [kept, htime]
  split
  · rename_i hid
    rw [hkept]
    exact .proceeded (hopen h t ht hid) time
  · exact .same

end Store

end IssueDispatch
