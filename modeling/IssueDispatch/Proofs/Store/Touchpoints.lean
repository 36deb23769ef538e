import IssueDispatch.Proofs.Relating
import IssueDispatch.Proofs.Store.Workflow

/-!
# Touchpoints that are no longer open

A touchpoint that has been answered, or proceeded with, stays in the store for good, but nothing in
the store looks at it any more.  So two stores that differ in nothing but such rows,
`Store.SameButClosed`, give the same answers and stay the same but for such rows, whatever is done
to both.

An operation that has nothing to do with touchpoints is blind: it does the same whatever the rows
are, and leaves them as they are.  The operations on touchpoints look at the open ones alone, and
none of them opens a row again.
-/

namespace IssueDispatch

namespace Store

variable {α : Type} {s s' : Store}

/-- The store with other touchpoints. -/
def withTouchpoints (s : Store) (ts : List Touchpoint) : Store := { s with touchpoints := ts }

/-- Two stores differ in nothing but touchpoints that are no longer open. -/
structure SameButClosed (s s' : Store) : Prop where
  frame : s' = s.withTouchpoints s'.touchpoints
  isOpen : s'.touchpoints.filter Touchpoint.isOpen = s.touchpoints.filter Touchpoint.isOpen

lemma SameButClosed.missing (h : s.SameButClosed s') : s'.missing = s.missing := by
  rw [h.frame]
  rfl

/-- What neither looks at the touchpoints nor touches them does the same to both stores. -/
lemma SameButClosed.of_blind (h : s.SameButClosed s') {f : Store → α × Store}
    (hf : ∀ s ts, f (s.withTouchpoints ts) = ((f s).1, (f s).2.withTouchpoints ts)) :
    (f s').1 = (f s).1 ∧ (f s).2.SameButClosed (f s').2 := by
  have hkept : (f s).2.touchpoints = s.touchpoints :=
    congrArg (fun p : α × Store => p.2.touchpoints) (hf s s.touchpoints)
  rw [h.frame, hf]
  refine ⟨rfl, rfl, ?_⟩
  rw [hkept]
  exact h.isOpen

lemma reading_blind (ts : List Table) {f : Store → α}
    (hf : ∀ s rows, f (s.withTouchpoints rows) = f s) : (reading ts f).Respects SameButClosed :=
  reading_respects (fun _ _ => SameButClosed.missing) ts fun s s' h => by rw [h.frame, hf]

lemma changing_blind (ts : List Table) {f : Store → α × Store}
    (hf : ∀ s rows, f (s.withTouchpoints rows) = ((f s).1, (f s).2.withTouchpoints rows)) :
    (changing ts f).Respects SameButClosed :=
  changing_respects (fun _ _ => SameButClosed.missing) ts fun _ _ h => h.of_blind hf

lemma modifyGet_blind {f : Store → α × Store}
    (hf : ∀ s rows, f (s.withTouchpoints rows) = ((f s).1, (f s).2.withTouchpoints rows)) :
    (modifyGet f : Transaction Store α).Respects SameButClosed :=
  .modifyGet fun _ _ h => h.of_blind hf

lemma modify_blind {f : Store → Store}
    (hf : ∀ s rows, f (s.withTouchpoints rows) = (f s).withTouchpoints rows) :
    (modify f : Transaction Store Unit).Respects SameButClosed :=
  .modify fun _ _ h => (h.of_blind (f := fun s => ((), f s)) fun s rows => by rw [hf]).2

/-! ### Overrides, records, work and events -/

lemma getOverride_blind (issueId : String) : (getOverride issueId).Respects SameButClosed :=
  reading_blind _ fun _ _ => rfl

lemma putOverride_blind (o : Override) : (putOverride o).Respects SameButClosed :=
  changing_blind _ fun _ _ => rfl

lemma removeOverride_blind (issueId : String) : (removeOverride issueId).Respects SameButClosed :=
  changing_blind _ fun _ _ => rfl

lemma getWorkflow_blind (issueId : String) : (getWorkflow issueId).Respects SameButClosed :=
  reading_blind _ fun _ _ => rfl

lemma saveWorkflow_blind (x : WorkflowState) (now : Binary64) :
    (saveWorkflow x now).Respects SameButClosed :=
  changing_blind _ fun _ _ => rfl

lemma changeWorkflow_blind (issueId : String) (f : WorkflowState → WorkflowState)
    (now : Binary64) : (changeWorkflow issueId f now).Respects SameButClosed :=
  (getWorkflow_blind issueId).bind fun _ => saveWorkflow_blind _ now

lemma clearWorkflow_blind (issueId : String) : (clearWorkflow issueId).Respects SameButClosed :=
  changing_blind _ fun _ _ => rfl

lemma markQaFailed_blind (issueId : String) (now : Binary64) :
    (markQaFailed issueId now).Respects SameButClosed :=
  (changeWorkflow_blind issueId _ now).bind fun _ => .pure ()

lemma clearQaFailed_blind (issueId : String) (now : Binary64) :
    (clearQaFailed issueId now).Respects SameButClosed := by
  refine (getWorkflow_blind issueId).bind fun x? => ?_
  cases x? with
  | none => exact .pure ()
  | some x => exact .ite ((saveWorkflow_blind _ now).bind fun _ => .pure ()) (.pure ())

lemma didJustFail_blind (issueId : String) (cooldown : Value) (now : Binary64) :
    (didJustFail issueId cooldown now).Respects SameButClosed := by
  refine (getWorkflow_blind issueId).bind fun x? => ?_
  cases x? with
  | none => exact .pure false
  | some x => exact .ofExcept _

lemma createIfIdle_blind (n : NewSession) (now : Binary64) :
    (createIfIdle n now).Respects SameButClosed := by
  refine Run.Respects.bind (Transaction.Respects.atomically ?_) fun created =>
    .ite (reading_blind _ fun _ _ => rfl) (.pure none)
  refine (requireTable_respects (fun _ _ => SameButClosed.missing) _).bind fun _ => ?_
  refine .get_bind (fun s s' h => by rw [h.frame]; rfl) fun s => .ite (.pure false) ?_
  have hpriority : (n.priority.forM requireInteger).Respects SameButClosed := by
    cases n.priority with
    | none => exact .pure ()
    | some p => exact requireInteger_respects p
  have hinsert : (modify (fun s => { s with sessions := s.sessions ++ [n.toSession .pending now] })
      >>= fun _ => pure true : Transaction Store Bool).Respects SameButClosed :=
    (modify_blind fun _ _ => rfl).bind fun _ => .pure true
  refine hpriority.bind fun _ => .get_bind (fun s s' h => by rw [h.frame]; rfl) fun s => ?_
  exact .ite ((Transaction.Respects.throw _).bind fun _ => hinsert) hinsert

lemma updateStatus_blind (sessionId : String) (status : SessionStatus)
    (worker error : Option String) (now : Binary64) :
    (updateStatus sessionId status worker error now).Respects SameButClosed := by
  have hchange (f : Session → Session) : (changeSession sessionId f).Respects SameButClosed :=
    changing_blind _ fun _ _ => rfl
  exact .ite ((Run.Respects.throw _).bind fun _ => hchange _) (hchange _)

lemma enqueue_blind (work : Work) : (enqueue work).Respects SameButClosed := by
  refine Transaction.Respects.atomically ?_
  refine (requireTable_respects (fun _ _ => SameButClosed.missing) _).bind fun _ => ?_
  refine (requireInteger_respects _).bind fun _ => modifyGet_blind fun s rows => ?_
  rw [show (s.withTouchpoints rows).hasQueued work.sessionId = s.hasQueued work.sessionId from rfl]
  split <;> rfl

lemma ackEvent_blind (id : Int) (now : Binary64) : (ackEvent id now).Respects SameButClosed :=
  Transaction.Respects.atomically <|
    (requireTable_respects (fun _ _ => SameButClosed.missing) _).bind fun _ =>
      (requireInteger_respects id).bind fun _ => modify_blind fun _ _ => rfl

lemma eventsRespect_sameButClosed : EventsRespect SameButClosed where
  events s s' h := by rw [h.frame]; rfl
  publish _ _ := publishEvent_respects (changing_blind _ fun _ _ => rfl)
  deliver visibility now := changing_blind _ fun s rows => by
    dsimp only [withTouchpoints]
    split <;> rfl
  ack := ackEvent_blind
  seen key window now := changing_blind _ fun s rows => by
    dsimp only [withTouchpoints]
    split
    · rfl
    · split <;> rfl

/-! ### Touchpoints -/

/-- If no change opens a touchpoint again, then what becomes of the open ones does not depend on the
others. -/
lemma filter_isOpen_map {f : Touchpoint → Touchpoint}
    (hf : ∀ t, t.isOpen = false → (f t).isOpen = false) (ts : List Touchpoint) :
    (ts.map f).filter Touchpoint.isOpen =
      ((ts.filter Touchpoint.isOpen).map f).filter Touchpoint.isOpen := by
  rw [List.filter_map, List.filter_map, List.filter_filter]
  congr 1
  refine List.filter_congr fun t _ => ?_
  cases hopen : t.isOpen with
  | true => simp
  | false => simp [hf t hopen]

/-- A change of rows that opens none again keeps two stores the same but for closed ones. -/
lemma SameButClosed.map (h : s.SameButClosed s') {f : Touchpoint → Touchpoint}
    (hf : ∀ t, t.isOpen = false → (f t).isOpen = false) :
    SameButClosed (s.withTouchpoints (s.touchpoints.map f))
      (s'.withTouchpoints (s'.touchpoints.map f)) := by
  refine ⟨?_, ?_⟩
  · rw [h.frame]
    rfl
  · calc (s'.touchpoints.map f).filter Touchpoint.isOpen
      _ = ((s'.touchpoints.filter Touchpoint.isOpen).map f).filter Touchpoint.isOpen :=
          filter_isOpen_map hf _
      _ = ((s.touchpoints.filter Touchpoint.isOpen).map f).filter Touchpoint.isOpen := by
          rw [h.isOpen]
      _ = (s.touchpoints.map f).filter Touchpoint.isOpen := (filter_isOpen_map hf _).symm

lemma SameButClosed.openTouchpoints (h : s.SameButClosed s') (issueId : Option String) :
    s'.openTouchpoints issueId = s.openTouchpoints issueId := by
  have hchosen (p : Touchpoint → Bool) (ts : List Touchpoint) :
      (ts.filter fun t => t.isOpen && p t) = (ts.filter Touchpoint.isOpen).filter p := by
    simp only [List.filter_filter, Bool.and_comm]
  dsimp only [Store.openTouchpoints]
  rw [hchosen, hchosen, h.isOpen]

lemma pendingTouchpoints_respects (issueId : Option String) :
    (pendingTouchpoints issueId).Respects SameButClosed :=
  reading_respects (fun _ _ => SameButClosed.missing) _ fun _ _ h => by
    rw [h.openTouchpoints issueId]

lemma saveTouchpoint_respects (issueId : String) (n : Notification) :
    (saveTouchpoint issueId n).Respects SameButClosed := by
  refine Transaction.Respects.atomically ?_
  refine (requireTable_respects (fun _ _ => SameButClosed.missing) _).bind fun _ => ?_
  have hsave : (modifyGet fun s : Store =>
      let id : Nat := s.lastTouchpoint + 1
      ({ n with id := some (id : Int) }, { s with
        lastTouchpoint := id
        touchpoints := s.touchpoints ++ [{
          id, issueId, kind := n.kind, body := n.body, postedAt := n.postedAt
          timeout := if n.timeout.isFinite then some n.timeout else none }] }) :
      Transaction Store Notification).Respects SameButClosed := by
    refine .modifyGet fun s s' h => ⟨?_, ?_, ?_⟩
    · rw [h.frame]
      rfl
    · rw [h.frame]
      rfl
    · dsimp only
      rw [List.filter_append, List.filter_append, h.isOpen, h.frame]
      rfl
  exact .ite ((Transaction.Respects.throw _).bind fun _ => hsave) hsave

lemma markResponded_respects (issueId : String) (time : Binary64) :
    (markResponded issueId time).Respects SameButClosed := by
  refine changing_respects (fun _ _ => SameButClosed.missing) _ fun s s' h => ⟨?_, h.map ?_⟩
  · have hcount (ts : List Touchpoint) : ts.countP (fun t => t.issueId == issueId && t.isOpen) =
        (ts.filter Touchpoint.isOpen).countP fun t => t.issueId == issueId :=
      (List.countP_filter ..).symm
    dsimp only
    rw [hcount, hcount, h.isOpen]
  · intro t hclosed
    simp [hclosed]

/-- The store after the open touchpoints of an issue have been answered. -/
def withAnswers (s : Store) (issueId : String) (time : Binary64) : Store :=
  s.withTouchpoints (s.touchpoints.map fun t =>
    if t.issueId == issueId && t.isOpen then { t with respondedAt := kept time } else t)

lemma markResponded_of_has (h : s.Has [.touchpoints]) (issueId : String) (time : Binary64) :
    markResponded issueId time s =
      (.ok (s.touchpoints.countP fun t => t.issueId == issueId && t.isOpen),
        s.withAnswers issueId time) :=
  changing_of_has h _

/-- After an answer the open touchpoints are those of the other issues. -/
lemma filter_isOpen_withAnswers (s : Store) (issueId : String) {time : Binary64}
    (htime : time.isNaN = false) :
    (s.withAnswers issueId time).touchpoints.filter Touchpoint.isOpen =
      (s.touchpoints.filter fun t => t.issueId != issueId).filter Touchpoint.isOpen := by
  have hanswered : kept time = some time := by simp [kept, htime]
  rw [withAnswers, withTouchpoints]
  dsimp only
  induction s.touchpoints with
  | nil => rfl
  | cons t ts ih =>
    rw [List.map_cons, List.filter_cons, ih]
    by_cases hissue : t.issueId = issueId
    · cases hopen : t.isOpen with
      | true => simp [hissue, Touchpoint.isOpen, hanswered]
      | false => simp [hissue, hopen]
    · simp [hissue, List.filter_cons]

/-- Touchpoints are marked at times that are numbers, so none is opened again by it. -/
lemma markAutoProceeded_respects (id : Int) {time : Binary64} (htime : time.isNaN = false) :
    (markAutoProceeded id time).Respects SameButClosed := by
  refine Transaction.Respects.atomically ?_
  refine (requireTable_respects (fun _ _ => SameButClosed.missing) _).bind fun _ => ?_
  refine (requireInteger_respects id).bind fun _ => .modify fun s s' h => h.map fun t hclosed => ?_
  split
  · simp [Touchpoint.isOpen, kept, htime]
  · exact hclosed

end Store

end IssueDispatch
