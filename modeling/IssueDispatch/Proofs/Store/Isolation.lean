import IssueDispatch.Proofs.Relating
import IssueDispatch.Proofs.Store.Workflow
import IssueDispatch.Store.Phases

/-!
# What the store holds about an issue

Every row of the queue, of the records of sessions and of the tables that steer the work on an issue
names the issue it is about.  `Store.SameAbout` says of two stores that they hold the same rows
about an issue, whatever they hold about others.

It serves for two things.  An operation on one issue leaves what is held about every other as it
was; the lemmas for this end in `_apart`.  And what is asked about an issue is answered from the
rows about it; the lemmas for this end in `_about`.
-/

namespace IssueDispatch

/-! ## Rows -/

section Rows

variable {ρ : Type} {key : ρ → String} {issueId other : String} {rows : List ρ}

/-- The rows of a table that are about an issue. -/
def rowsAbout (key : ρ → String) (issueId : String) (rows : List ρ) : List ρ :=
  rows.filter fun x => key x == issueId

/-- A row about another issue may be added. -/
lemma rowsAbout_append {row : ρ} (hrow : key row ≠ issueId) :
    rowsAbout key issueId (rows ++ [row]) = rowsAbout key issueId rows := by
  simp [rowsAbout, hrow]

/-- The rows about another issue may be removed. -/
lemma rowsAbout_remove (hother : other ≠ issueId) :
    rowsAbout key issueId (rows.filter fun x => key x != other) = rowsAbout key issueId rows := by
  rw [rowsAbout, rowsAbout, List.filter_filter]
  refine List.filter_congr fun x _ => ?_
  by_cases hx : key x = issueId
  · simp [hx, Ne.symm hother]
  · simp [hx]

/-- Of the rows about an issue none is left when they have been removed. -/
lemma rowsAbout_removed : rowsAbout key issueId (rows.filter fun x => key x != issueId) = [] := by
  simp [rowsAbout, List.filter_eq_nil_iff]

/-- The row about another issue may be replaced. -/
lemma rowsAbout_replace {row : ρ} (hrow : key row ≠ issueId) :
    rowsAbout key issueId ((rows.filter fun x => key x != key row) ++ [row]) =
      rowsAbout key issueId rows :=
  (rowsAbout_append hrow).trans (rowsAbout_remove hrow)

/-- The rows about other issues may be changed. -/
lemma rowsAbout_map {f : ρ → ρ} (hkey : ∀ x, key (f x) = key x)
    (hf : ∀ x, key x = issueId → f x = x) :
    rowsAbout key issueId (rows.map f) = rowsAbout key issueId rows := by
  have hkept : ∀ x ∈ rowsAbout key issueId rows, f x = x := fun x hx =>
    hf x (by simpa using (List.mem_filter.1 hx).2)
  have hsame : ((fun x => key x == issueId) ∘ f) = fun x => key x == issueId :=
    funext fun x => congrArg (· == issueId) (hkey x)
  rw [rowsAbout, List.filter_map, hsame]
  exact (List.map_congr_left hkept).trans (List.map_id _)

/-- What is found for an issue is found among the rows about it. -/
lemma find?_eq_head?_rowsAbout :
    (rows.find? fun x => key x == issueId) = (rowsAbout key issueId rows).head? :=
  List.head?_filter.symm

lemma any_rowsAbout (p : ρ → Bool) :
    (rows.any fun x => key x == issueId && p x) = (rowsAbout key issueId rows).any p :=
  List.any_filter.symm

end Rows

namespace Store

variable {issueId other : String} {s s' : Store}

/-- Two stores have the same tables and hold the same rows about an issue. -/
structure SameAbout (issueId : String) (s s' : Store) : Prop where
  missing : s'.missing = s.missing
  sessions : rowsAbout Session.issueId issueId s'.sessions =
    rowsAbout Session.issueId issueId s.sessions
  queue : rowsAbout Work.issueId issueId s'.queue = rowsAbout Work.issueId issueId s.queue
  overrides : rowsAbout Override.issueId issueId s'.overrides =
    rowsAbout Override.issueId issueId s.overrides
  workflow : rowsAbout WorkflowState.issueId issueId s'.workflow =
    rowsAbout WorkflowState.issueId issueId s.workflow
  touchpoints : rowsAbout Touchpoint.issueId issueId s'.touchpoints =
    rowsAbout Touchpoint.issueId issueId s.touchpoints
  phases : rowsAbout CompletedPhase.issueId issueId s'.phases =
    rowsAbout CompletedPhase.issueId issueId s.phases

instance : IsPreorder Store (SameAbout issueId) where
  refl _ := ⟨rfl, rfl, rfl, rfl, rfl, rfl, rfl⟩
  trans _ _ _ h h' := {
    missing := h'.missing.trans h.missing
    sessions := h'.sessions.trans h.sessions
    queue := h'.queue.trans h.queue
    overrides := h'.overrides.trans h.overrides
    workflow := h'.workflow.trans h.workflow
    touchpoints := h'.touchpoints.trans h.touchpoints
    phases := h'.phases.trans h.phases }

lemma SameAbout.has (h : s.SameAbout issueId s') (ts : List Table) : s'.Has ts ↔ s.Has ts := by
  unfold Has
  rw [h.missing]

/-! ## Operations on other issues -/

lemma sameAbout_withSession {x : Session} (hx : x.issueId ≠ issueId) :
    s.SameAbout issueId (s.withSession x) :=
  ⟨rfl, rowsAbout_append hx, rfl, rfl, rfl, rfl, rfl⟩

lemma sameAbout_withWork {work : Work} (hwork : work.issueId ≠ issueId) :
    s.SameAbout issueId (s.withWork work) :=
  ⟨rfl, rfl, rowsAbout_append hwork, rfl, rfl, rfl, rfl⟩

lemma sameAbout_withWorkflow {x : WorkflowState} (hx : x.issueId ≠ issueId) :
    s.SameAbout issueId (s.withWorkflow x) :=
  ⟨rfl, rfl, rfl, rfl, rowsAbout_replace hx, rfl, rfl⟩

lemma putOverride_apart {o : Override} (ho : o.issueId ≠ issueId) :
    (putOverride o).Keeps (SameAbout issueId) := by
  refine changing_keeps _ fun s => ⟨rfl, rfl, rfl, ?_, rfl, rfl, rfl⟩
  let row : Override := { o with expiresAt := o.expiresAt.bind kept }
  have hrow : row.issueId ≠ issueId := ho
  exact rowsAbout_replace hrow

section Apart

variable (hother : other ≠ issueId)

include hother

lemma removeOverride_apart : (removeOverride other).Keeps (SameAbout issueId) :=
  changing_keeps _ fun _ => ⟨rfl, rfl, rfl, rowsAbout_remove hother, rfl, rfl, rfl⟩

lemma changeWorkflow_apart {f : WorkflowState → WorkflowState}
    (hf : ∀ x, (f x).issueId = x.issueId) (now : Binary64) :
    (changeWorkflow other f now).Keeps (SameAbout issueId) := by
  intro s
  rcases changeWorkflow_cases other f now s with ⟨-, h⟩ | ⟨e, -, h⟩
  · have hkey : (f (s.workflowOf other)).issueId = other :=
      (hf _).trans (s.workflowOf_issueId other)
    rw [h]
    exact sameAbout_withWorkflow fun hissue => hother (hkey.symm.trans hissue)
  · rw [h]
    exact refl s

lemma clearWorkflow_apart : (clearWorkflow other).Keeps (SameAbout issueId) :=
  changing_keeps _ fun _ => ⟨rfl, rfl, rfl, rfl, rowsAbout_remove hother, rfl, rfl⟩

lemma markQaFailed_apart (now : Binary64) : (markQaFailed other now).Keeps (SameAbout issueId) :=
  (changeWorkflow_apart hother (f := fun x => { x with qaFailedAt := some now }) (fun _ => rfl)
    now).bind fun _ => .pure ()

lemma clearQaFailed_apart (now : Binary64) :
    (clearQaFailed other now).Keeps (SameAbout issueId) := by
  intro s
  have hkey := s.workflowOf_issueId other
  rcases clearQaFailed_cases other now s with h | h
  · rw [h]
    exact refl s
  · rw [h]
    exact sameAbout_withWorkflow fun hissue => hother (hkey.symm.trans hissue)

lemma saveTouchpoint_apart (n : Notification) :
    (saveTouchpoint other n).Keeps (SameAbout issueId) := by
  refine Transaction.Keeps.atomically
    (Transaction.Keeps.after ?_ fun _ _ _ => eq_of_requireTable)
  by_cases htime : n.postedAt.isNaN = true
  · rw [if_pos htime]
    intro s a s' h
    cases h
  · rw [if_neg htime]
    exact Transaction.modifyGet_keeps fun _ =>
      ⟨rfl, rfl, rfl, rfl, rfl, rowsAbout_append hother, rfl⟩

lemma markResponded_apart (time : Binary64) :
    (markResponded other time).Keeps (SameAbout issueId) := by
  refine changing_keeps _ fun s => ⟨rfl, rfl, rfl, rfl, rfl, rowsAbout_map (fun t => ?_)
    (fun t ht => ?_), rfl⟩
  · split
    · rfl
    · rfl
  · have hmiss : (t.issueId == other && t.isOpen) = false := by simp [ht, Ne.symm hother]
    exact if_neg (Bool.eq_false_iff.1 hmiss)

end Apart

/-! ## Questions about the issue -/

lemma reading_about (ts : List Table) {α : Type} {f : Store → α}
    (hf : ∀ s s', SameAbout issueId s s' → f s' = f s) :
    (reading ts f).Respects (SameAbout issueId) :=
  reading_respects (fun _ _ h => h.missing) ts hf

lemma SameAbout.isBusy (h : s.SameAbout issueId s') : s'.isBusy issueId = s.isBusy issueId := by
  rw [Store.isBusy, Store.isBusy, any_rowsAbout, any_rowsAbout, h.sessions]

lemma hasActiveSession_about : (hasActiveSession issueId).Respects (SameAbout issueId) :=
  reading_about _ fun _ _ h => h.isBusy

lemma getOverride_about : (getOverride issueId).Respects (SameAbout issueId) :=
  reading_about _ fun _ _ h => by
    rw [find?_eq_head?_rowsAbout, find?_eq_head?_rowsAbout, h.overrides]

/-- After the override of the issue has been removed there is none in either store. -/
lemma removeOverride_about : (removeOverride issueId).Respects (SameAbout issueId) :=
  changing_respects (fun _ _ h => h.missing) _ fun _ _ h =>
    ⟨rfl, { h with overrides := rowsAbout_removed.trans rowsAbout_removed.symm }⟩

lemma getWorkflow_about : (getWorkflow issueId).Respects (SameAbout issueId) :=
  reading_about _ fun _ _ h => by
    rw [find?_eq_head?_rowsAbout, find?_eq_head?_rowsAbout, h.workflow]

lemma getStrategy_about : (getStrategy issueId).Respects (SameAbout issueId) :=
  getWorkflow_about.bind fun _ => .pure _

lemma didJustFail_about (cooldown : Value) (now : Binary64) :
    (didJustFail issueId cooldown now).Respects (SameAbout issueId) := by
  refine getWorkflow_about.bind fun x? => ?_
  cases x? with
  | none => exact .pure false
  | some x => exact .ofExcept _

lemma isCompleted_about (phase : String) :
    (isCompleted issueId phase).Respects (SameAbout issueId) :=
  reading_about _ fun s s' h => by
    unfold CompletedPhase.isOf
    rw [any_rowsAbout, any_rowsAbout, h.phases]

/-- The open touchpoints of an issue are among the rows about it, if its identifier is not empty;
an empty one stands for all issues. -/
lemma openTouchpoints_some (hissue : issueId ≠ "") (s : Store) :
    s.openTouchpoints (some issueId) =
      ((rowsAbout Touchpoint.issueId issueId s.touchpoints).filter Touchpoint.isOpen).mergeSort
        fun a b => a.postedAt.le b.postedAt := by
  rw [rowsAbout, List.filter_filter, openTouchpoints]
  simp only

lemma pendingTouchpoints_about (hissue : issueId ≠ "") :
    (pendingTouchpoints (some issueId)).Respects (SameAbout issueId) :=
  reading_about _ fun s s' h => by
    rw [openTouchpoints_some hissue, openTouchpoints_some hissue, h.touchpoints]

end Store

end IssueDispatch
