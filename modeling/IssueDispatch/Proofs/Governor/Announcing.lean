import IssueDispatch.Proofs.Decoding
import IssueDispatch.Proofs.Governor.Cycles
import IssueDispatch.Proofs.Number.Rounding
import IssueDispatch.Proofs.Standard

/-!
# Announcing failures

Every failed cycle is announced: the strategy that the new count calls for has a touchpoint, which
is saved with the window that the settings give it and then posted.  The text of a review request
and of a decomposition proposal says after how many hours it is proceeded with, and a window without
an end is no number of hours.  Settings may well give such a window, so a failed cycle is announced
exactly if the window of its touchpoint can be written and kept: `TouchpointKind.Admits`.

When it cannot, the cycle has been counted before anything goes wrong, and nobody is told.
-/

namespace IssueDispatch

variable {ω : Type}

/-! ## Windows -/

/-- The kind of touchpoint that a strategy calls for. -/
def Strategy.touchpointKind? : Strategy → Option TouchpointKind
  | contextEnriched => some .reviewRequest
  | decompose => some .decompositionProposal
  | escalateHuman => some .escalationAlert
  | normal | other _ => none

/-- The window of a kind of touchpoint. -/
def TouchpointSettings.window? (t : TouchpointSettings) : TouchpointKind → Option Binary64
  | .reviewRequest => some t.reviewRequest
  | .decompositionProposal => some t.decompositionProposal
  | .escalationAlert => some t.escalationAlert
  | .other _ => none

/-- A strategy calls for a kind of touchpoint that has a window. -/
lemma TouchpointSettings.exists_window (t : TouchpointSettings) {strategy : Strategy}
    {kind : TouchpointKind} (h : strategy.touchpointKind? = some kind) :
    ∃ window, t.window? kind = some window := by
  cases strategy with
  | normal => cases h
  | other name => cases h
  | contextEnriched =>
    obtain rfl := Option.some.inj h
    exact ⟨_, rfl⟩
  | decompose =>
    obtain rfl := Option.some.inj h
    exact ⟨_, rfl⟩
  | escalateHuman =>
    obtain rfl := Option.some.inj h
    exact ⟨_, rfl⟩

namespace TouchpointKind

/-- The text of a touchpoint can be written: alerts name no hours, the others do. -/
def Writes (kind : TouchpointKind) (window : Binary64) : Prop :=
  kind = .escalationAlert ∨ window.isFinite = true

/-- A touchpoint can be written, and is kept with the window that it has. -/
def Admits (kind : TouchpointKind) (window : Binary64) : Prop :=
  window.isFinite = true ∨ (kind = .escalationAlert ∧ window = .infinity false)

/-- What can be written is admitted if it is read as it was kept. -/
lemma admits_iff {kind : TouchpointKind} {window : Binary64} :
    kind.Admits window ↔
      kind.Writes window ∧ (window.isFinite = true ∨ window = .infinity false) := by
  constructor
  · rintro (hfinite | ⟨halert, hendless⟩)
    · exact ⟨Or.inr hfinite, Or.inl hfinite⟩
    · exact ⟨Or.inl halert, Or.inr hendless⟩
  · rintro ⟨halert | hfinite, hkept⟩
    · exact hkept.imp_right fun hendless => ⟨halert, hendless⟩
    · exact Or.inl hfinite

end TouchpointKind

/-- A time is a number of hours exactly if it is finite. -/
lemma Notification.hours_cases (window : Binary64) :
    (window.isFinite = true ∧ ∃ n, hours window = .ok n) ∨
      (window.isFinite = false ∧ ∃ fault, hours window = .error fault) := by
  have hfinite : (window.divNat 3600).isFinite = window.isFinite :=
    Binary64.isFinite_divNat window (by decide)
  unfold hours Binary64.scaledHalfEven?
  cases hquotient : window.divNat 3600 with
  | nan =>
    rw [hquotient] at hfinite
    refine Or.inr ⟨hfinite.symm, ?_⟩
    cases window.isNaN <;> exact ⟨_, rfl⟩
  | infinity negative =>
    rw [hquotient] at hfinite
    refine Or.inr ⟨hfinite.symm, ?_⟩
    cases window.isNaN <;> exact ⟨_, rfl⟩
  | negZero =>
    rw [hquotient] at hfinite
    exact Or.inl ⟨hfinite.symm, _, rfl⟩
  | finite u fits =>
    rw [hquotient] at hfinite
    exact Or.inl ⟨hfinite.symm, _, rfl⟩

namespace Settings

/-- The value that the fields of raw settings give for the time in which humans should respond. -/
def humanResponse (data : Fields) : Value :=
  Value.getD (Value.merge defaults (data.filter fun field =>
    (Value.lookup? defaults field.1).isSome)) "human_response_timeout_seconds"

/-- The value that raw settings give for the window of a kind of touchpoint.  A review request waits
as long as humans have to respond in general, unless it has a window of its own. -/
def givenWindow (raw : Value) (kind : TouchpointKind) : Except Fault Value := do
  let data ← rawFields raw
  let fields ← sectionFields data (defaultTouchpoints (humanResponse data)) "touchpoints"
  match kind with
  | .reviewRequest => return Value.getD fields "review_request_timeout_seconds"
  | .decompositionProposal => return Value.getD fields "decomposition_proposal_timeout_seconds"
  | .escalationAlert => return Value.getD fields "escalation_alert_timeout_seconds"
  | .other name => throw (.missingField name)

/-- The windows of settings that have been built are read from what is given for them. -/
lemma exists_buildTouchpoints {raw : Value} {s : Settings} (h : build raw = .ok s) :
    ∃ data, rawFields raw = .ok data ∧
      buildTouchpoints data (humanResponse data) = .ok s.touchpoints := by
  unfold build at h
  obtain ⟨data, hdata, h⟩ := bind_eq_ok_iff.1 h
  obtain ⟨_, -, h⟩ := bind_eq_ok_iff.1 h
  obtain ⟨projects, -, h⟩ := bind_eq_ok_iff.1 h
  obtain ⟨below, -, h⟩ := bind_eq_ok_iff.1 h
  cases below with
  | true => cases h
  | false =>
    obtain ⟨_, -, h⟩ := bind_eq_ok_iff.1 h
    obtain ⟨_, -, h⟩ := bind_eq_ok_iff.1 h
    obtain ⟨_, -, h⟩ := bind_eq_ok_iff.1 h
    obtain ⟨statuses, -, h⟩ := bind_eq_ok_iff.1 h
    obtain ⟨touchpoints, htouchpoints, h⟩ := bind_eq_ok_iff.1 h
    obtain ⟨icebox, -, h⟩ := bind_eq_ok_iff.1 h
    obtain ⟨cap, -, h⟩ := bind_eq_ok_iff.1 h
    obtain ⟨humanResponse, -, h⟩ := bind_eq_ok_iff.1 h
    cases h
    exact ⟨data, hdata, htouchpoints⟩

/-- The window of a kind of touchpoint is the time that is given for it. -/
lemma exists_givenWindow {raw : Value} {s : Settings} (h : build raw = .ok s)
    {kind : TouchpointKind} {window : Binary64}
    (hwindow : s.touchpoints.window? kind = some window) :
    ∃ v, givenWindow raw kind = .ok v ∧ duration v = .ok window := by
  obtain ⟨data, hdata, h⟩ := exists_buildTouchpoints h
  unfold buildTouchpoints at h
  obtain ⟨fields, hfields, h⟩ := bind_eq_ok_iff.1 h
  obtain ⟨reviewRequest, hreview, h⟩ := bind_eq_ok_iff.1 h
  obtain ⟨decompositionProposal, hproposal, h⟩ := bind_eq_ok_iff.1 h
  obtain ⟨escalationAlert, halert, h⟩ := bind_eq_ok_iff.1 h
  rw [← Except.ok.inj h] at hwindow
  unfold givenWindow
  rw [hdata, ok_bind, hfields, ok_bind]
  cases kind with
  | reviewRequest => exact ⟨_, rfl, (Option.some.inj hwindow) ▸ hreview⟩
  | decompositionProposal => exact ⟨_, rfl, (Option.some.inj hwindow) ▸ hproposal⟩
  | escalationAlert => exact ⟨_, rfl, (Option.some.inj hwindow) ▸ halert⟩
  | other name => cases hwindow

end Settings

/-! ## Touchpoints of a failed cycle -/

/-- A touchpoint of a kind has just been written, and nobody has answered it. -/
structure Notification.Asks (n : Notification) (kind : TouchpointKind) (window now : Binary64) :
    Prop where
  kind : n.kind = kind
  timeout : n.timeout = window
  postedAt : n.postedAt = now
  unanswered : n.respondedAt = none

/-- A touchpoint as it is kept when it has just been posted. -/
def Touchpoint.ofNotification (id : Nat) (n : Notification) : Touchpoint where
  id := id
  issueId := n.issueId
  kind := n.kind
  body := n.body
  postedAt := n.postedAt
  timeout := if n.timeout.isFinite then some n.timeout else none

/-- What is kept is open. -/
lemma Touchpoint.isOpen_ofNotification (id : Nat) (n : Notification) :
    (ofNotification id n).isOpen = true := rfl

/-- A touchpoint is read as it was posted exactly if its window is finite or endless. -/
lemma Touchpoint.toNotification_ofNotification (id : Nat) {n : Notification}
    (hn : n.respondedAt = none) :
    (ofNotification id n).toNotification = { n with id := some (id : Int) } ↔
      n.timeout.isFinite = true ∨ n.timeout = .infinity false := by
  have hkept : (ofNotification id n).toNotification =
      { n with
        timeout := if n.timeout.isFinite then n.timeout else .infinity false
        id := some (id : Int) } := by
    unfold toNotification ofNotification
    dsimp only
    rw [hn]
    cases n.timeout.isFinite <;> rfl
  rw [hkept]
  constructor
  · intro h
    have htimeout := congrArg Notification.timeout h
    dsimp only at htimeout
    cases hfinite : n.timeout.isFinite with
    | true => exact Or.inl rfl
    | false =>
      rw [hfinite] at htimeout
      exact Or.inr htimeout.symm
  · rintro (hfinite | hendless)
    · rw [hfinite]
      rfl
    · rw [hendless, ← hendless]
      simp [hendless, Binary64.isFinite]

namespace Escalation

variable {e : Escalation ω} {w : World ω} {issueId identifier : String} {summary : Option String}
  {cost : Option Binary64}

/-- A touchpoint whose text says when it is proceeded with is written exactly if its window is
finite. -/
lemma writing_cases {kind : TouchpointKind} (hkind : kind ≠ .escalationAlert)
    {window now : Binary64} {body : Int → String} {writing : Except Fault Notification}
    (h : writing = do
      let hours ← Notification.hours window
      return {
        kind, issueId := identifier, body := body hours, postedAt := now, timeout := window }) :
    (kind.Writes window ∧ ∃ n, writing.map some = .ok (some n) ∧ n.Asks kind window now) ∨
      (¬ kind.Writes window ∧ ∃ fault, writing.map some = .error fault) := by
  rcases Notification.hours_cases window with ⟨hfinite, n, hours⟩ | ⟨hendless, fault, hours⟩
  · rw [h, hours]
    exact Or.inl ⟨Or.inr hfinite, _, rfl, rfl, rfl, rfl, rfl⟩
  · rw [h, hours]
    refine Or.inr ⟨?_, fault, rfl⟩
    rintro (halert | hfinite)
    · exact hkind halert
    · exact Bool.false_ne_true (hendless.symm.trans hfinite)

/-- A touchpoint is written if its text can be, and otherwise there is a fault. -/
lemma notification_cases (e : Escalation ω) (subject : Notification.Subject) (now : Binary64)
    {strategy : Strategy} {kind : TouchpointKind} {window : Binary64}
    (hkind : strategy.touchpointKind? = some kind)
    (hwindow : e.windows.window? kind = some window) :
    (kind.Writes window ∧
        ∃ n, e.notification? strategy subject now = .ok (some n) ∧ n.Asks kind window now) ∨
      (¬ kind.Writes window ∧ ∃ fault, e.notification? strategy subject now = .error fault) := by
  cases strategy with
  | normal => cases hkind
  | other name => cases hkind
  | contextEnriched =>
    obtain rfl := Option.some.inj hkind
    obtain rfl := Option.some.inj hwindow
    have hkind : TouchpointKind.reviewRequest ≠ .escalationAlert := nofun
    exact writing_cases hkind rfl
  | decompose =>
    obtain rfl := Option.some.inj hkind
    obtain rfl := Option.some.inj hwindow
    have hkind : TouchpointKind.decompositionProposal ≠ .escalationAlert := nofun
    exact writing_cases hkind rfl
  | escalateHuman =>
    obtain rfl := Option.some.inj hkind
    obtain rfl := Option.some.inj hwindow
    exact Or.inl ⟨Or.inl rfl, _, rfl, rfl, rfl, rfl, rfl⟩

/-! ## Posting comes last -/

/-- The same manager of escalation as it posts nothing. -/
def silent (e : Escalation ω) : Escalation ω := { e with postComment := none }

/-- Posts a touchpoint of an issue, if there is one and somewhere to post it. -/
def post (e : Escalation ω) (issueId : String) (n? : Option Notification) : Run (World ω) Unit :=
  match n?, e.postComment with
  | some n, some post => post issueId n.body
  | _, _ => pure ()

lemma announce_eq_post (e : Escalation ω) (issueId : String) (n : Notification) :
    e.announce issueId n = (do
      let n? ← e.silent.announce issueId n
      e.post issueId n?
      return n?) := by
  unfold announce
  rw [bind_assoc]
  refine congrArg (World.onStore (Store.saveTouchpoint issueId { n with issueId }) >>= ·)
    (funext fun n => ?_)
  unfold post
  cases e.postComment with
  | none => rfl
  | some post => rfl

lemma respond_eq_post (e : Escalation ω) (issueId identifier : String) (cost : Option Binary64)
    (now : Binary64) (state : WorkflowState) :
    e.respond issueId identifier cost now state = (do
      let n? ← e.silent.respond issueId identifier cost now state
      e.post issueId n?
      return n?) := by
  unfold respond
  dsimp only
  rw [bind_assoc]
  refine congrArg (Run.ofExcept _ >>= ·) (funext fun n? => ?_)
  cases n? with
  | none => rfl
  | some n =>
    dsimp only
    by_cases hhuman : state.strategy = .escalateHuman
    · rw [if_pos hhuman, if_pos hhuman, bind_assoc]
      exact congrArg (e.shelf.set issueId (parking now) none >>= ·)
        (funext fun _ => e.announce_eq_post issueId n)
    · rw [if_neg hhuman, if_neg hhuman]
      exact e.announce_eq_post issueId n

/-- Whatever is posted after a failed cycle is posted last. -/
lemma recordFailure_eq_post (e : Escalation ω) (issueId identifier : String)
    (summary : Option String) (cost : Option Binary64) :
    e.recordFailure issueId identifier summary cost = (do
      let n? ← e.silent.recordFailure issueId identifier summary cost
      e.post issueId n?
      return n?) := by
  rw [recordFailure_eq, recordFailure_eq]
  unfold escalate
  simp only [bind_assoc, e.respond_eq_post]

/-- A touchpoint of an issue has been saved in an open row. -/
def Saved (issueId : String) (kind : TouchpointKind) (window now : Binary64) (w : World ω)
    (r : Except Fault (Option Notification) × World ω) : Prop :=
  ∃ (n : Notification) (id : Nat), n.Asks kind window now ∧ n.issueId = issueId ∧
    r.1 = .ok (some { n with id := some (id : Int) }) ∧
    r.2.store.touchpoints = w.store.touchpoints ++ [.ofNotification id n]

/-- Where there is a table for it, a touchpoint is saved. -/
lemma saved_announce (e : Escalation ω) (h : w.store.Has [.touchpoints]) {n : Notification}
    {kind : TouchpointKind} {window now : Binary64} (hn : n.Asks kind window now)
    (hnow : now.isNaN = false) (issueId : String) :
    Saved issueId kind window now w (e.silent.announce issueId n w) := by
  have hnumber : n.postedAt.isNaN = false := by rw [hn.postedAt, hnow]
  let id : Nat := w.store.lastTouchpoint + 1
  let store : Store := { w.store with
    lastTouchpoint := id
    touchpoints := w.store.touchpoints ++ [.ofNotification id { n with issueId }] }
  have hsave : Store.saveTouchpoint issueId { n with issueId } w.store =
      (.ok { n with issueId, id := some (id : Int) }, store) := by
    refine Run.atomically_ok ?_
    rw [Transaction.bind_of_ok (Store.requireTable_of_notMem (h _ (List.mem_singleton.2 rfl)))]
    dsimp only
    rw [hnumber]
    rfl
  have hannounce : e.silent.announce issueId n w =
      (.ok (some { n with issueId, id := some (id : Int) }), { w with store }) := by
    rw [announce, Run.bind_of_ok (World.onStore_of_eq hsave)]
    rfl
  rw [hannounce]
  exact ⟨{ n with issueId }, id, ⟨hn.kind, hn.timeout, hn.postedAt, hn.unanswered⟩, rfl, rfl, rfl⟩

/-- The response to a failed cycle goes as far as the text of the touchpoint can be written. -/
lemma respond_cases (e : Escalation ω) (h : w.store.Has [.touchpoints]) (hthere : e.shelf.IsThere w)
    {now : Binary64} (hnow : now.isNaN = false) (issueId identifier : String)
    (cost : Option Binary64) {state : WorkflowState} {kind : TouchpointKind} {window : Binary64}
    (hkind : state.strategy.touchpointKind? = some kind)
    (hwindow : e.windows.window? kind = some window) :
    (kind.Writes window ∧ Saved issueId kind window now w
        (e.silent.respond issueId identifier cost now state w)) ∨
      (¬ kind.Writes window ∧
        ∃ fault v, e.silent.respond issueId identifier cost now state w = (.error fault, v)) := by
  let subject : Notification.Subject :=
    { identifier, cycles := state.cycleCount, failures := state.failureSummary, cost }
  rcases e.silent.notification_cases subject now hkind hwindow with ⟨hwrites, n, hn, hasks⟩ |
    ⟨hnot, fault, hfault⟩
  · refine Or.inl ⟨hwrites, ?_⟩
    rw [respond, hn, Run.bind_of_ok (Run.ofExcept_apply _ w)]
    dsimp only
    by_cases hhuman : state.strategy = .escalateHuman
    · rw [if_pos hhuman]
      obtain ⟨v, hset, -⟩ := OverrideShelf.set_of_isThere hthere issueId (parking now)
      have hframe : w.OnlyOverrides v :=
        (e.shelf.set_keeps issueId (parking now) none).of_apply_eq hset
      have hv : v.store.Has [.touchpoints] := by
        intro t ht
        rw [hframe.store]
        exact h t ht
      have hsame : v.store.touchpoints = w.store.touchpoints := by rw [hframe.store]
      have hsaved := e.saved_announce hv hasks hnow issueId
      rw [Run.bind_of_ok (x := e.silent.shelf.set issueId (parking now) none) hset]
      unfold Saved at hsaved ⊢
      rwa [hsame] at hsaved
    · rw [if_neg hhuman]
      exact e.saved_announce h hasks hnow issueId
  · refine Or.inr ⟨hnot, fault, w, ?_⟩
    rw [respond, hfault]
    exact Run.bind_of_error (Run.ofExcept_apply _ w)

/-! ## Every failed cycle -/

/-- A failed cycle of an issue is announced by a touchpoint of some kind: it is saved with the
window that the settings give it, as a row that is open and reads as it was posted, and posted. -/
def Announces (e : Escalation ω) (issueId identifier : String) (summary : Option String)
    (cost : Option Binary64) (w : World ω) (kind : TouchpointKind) : Prop :=
  ∃ n t v, e.silent.recordFailure issueId identifier summary cost w = (.ok (some n), v) ∧
    e.recordFailure issueId identifier summary cost w =
      (.ok (some n), (e.post issueId (some n) v).2) ∧
    n.kind = kind ∧ n.issueId = issueId ∧ n.postedAt = w.clock ∧
    e.windows.window? kind = some n.timeout ∧
    v.store.touchpoints = w.store.touchpoints ++ [t] ∧ t.isOpen = true ∧ t.toNotification = n

/-- A failed cycle ends without a fault, and is announced as the strategy for the new count calls
for. -/
def Supports (e : Escalation ω) (issueId identifier : String) (summary : Option String)
    (cost : Option Binary64) (w : World ω) : Prop :=
  match (Strategy.forCycles ((w.store.workflowOf issueId).cycleCount + 1)).touchpointKind? with
  | some kind => e.Announces issueId identifier summary cost w kind
  | none => (e.recordFailure issueId identifier summary cost w).1 = .ok none

/-- Up to the response a failed cycle goes through, and no touchpoint has been changed. -/
lemma exists_counted (e : Escalation ω) (h : w.store.Has [.workflowState]) (issueId : String)
    (identifier : String) (summary : Option String) (cost : Option Binary64) :
    ∃ state v, state.strategy = .forCycles ((w.store.workflowOf issueId).cycleCount + 1) ∧
      v = { w with store := { w.store with workflow := v.store.workflow } } ∧
      e.recordFailure issueId identifier summary cost w =
        e.respond issueId identifier cost w.clock state v := by
  obtain ⟨v, hnoted, hrecord⟩ := e.exists_noted h issueId identifier summary cost
  refine ⟨counted v issueId w.clock,
    { v with store := v.store.withWorkflow (counted v issueId w.clock) }, ?_, ?_, ?_⟩
  · simp [counted, WorkflowState.countFailure, hnoted.record]
  · rw [hnoted.frame]
    rfl
  · rw [hrecord, e.escalate_of_has (hnoted.has h)]

/-- Where comments are posted without a fault, posting ends without one. -/
lemma post_of_quiet
    (hpost : ∀ post ∈ e.postComment, ∀ issueId body v, (post issueId body v).1 = .ok ())
    (n? : Option Notification) (w : World ω) :
    e.post issueId n? w = (.ok (), (e.post issueId n? w).2) := by
  have hquiet : (e.post issueId n? w).1 = .ok () := by
    unfold post
    cases n? with
    | none => rfl
    | some n =>
      rcases hcomment : e.postComment with - | post
      · rfl
      · exact hpost post hcomment issueId n.body w
  exact Prod.ext hquiet rfl

/-- The outcome of a failed cycle is that of the silent manager, as long as posting ends without a
fault. -/
lemma recordFailure_of_silent
    (hpost : ∀ post ∈ e.postComment, ∀ issueId body v, (post issueId body v).1 = .ok ())
    {n? : Option Notification} {v : World ω}
    (h : e.silent.recordFailure issueId identifier summary cost w = (.ok n?, v)) :
    e.recordFailure issueId identifier summary cost w = (.ok n?, (e.post issueId n? v).2) := by
  rw [recordFailure_eq_post, Run.bind_of_ok h, Run.bind_of_ok (post_of_quiet hpost n? v)]
  rfl

section Outcome

variable (htables : w.store.Has [.workflowState, .touchpoints]) (hthere : e.shelf.IsThere w)
  (hclock : w.clock.isNaN = false)
  (hpost : ∀ post ∈ e.postComment, ∀ issueId body v, (post issueId body v).1 = .ok ())

include htables hthere hclock in
/-- A failed cycle goes as far as the text of its touchpoint can be written. -/
lemma recordFailure_cases (issueId identifier : String) (summary : Option String)
    (cost : Option Binary64) {kind : TouchpointKind} {window : Binary64}
    (hkind : (Strategy.forCycles
      ((w.store.workflowOf issueId).cycleCount + 1)).touchpointKind? = some kind)
    (hwindow : e.windows.window? kind = some window) :
    (kind.Writes window ∧ Saved issueId kind window w.clock w
        (e.silent.recordFailure issueId identifier summary cost w)) ∨
      (¬ kind.Writes window ∧ ∃ fault v,
        e.silent.recordFailure issueId identifier summary cost w = (.error fault, v)) := by
  obtain ⟨state, v, hstrategy, hframe, hrecord⟩ := e.silent.exists_counted
    (htables.mono (by simp)) issueId identifier summary cost
  have hv : v.store.Has [.touchpoints] := by
    intro t ht
    rw [hframe]
    exact htables t (by simp [List.mem_singleton.1 ht])
  have hthere' : e.shelf.IsThere v := by
    refine hthere.of_sameTables ?_
    rw [World.SameTables, hframe]
  have hsame : v.store.touchpoints = w.store.touchpoints := by rw [hframe]
  rw [← hstrategy] at hkind
  rw [hrecord]
  refine (e.respond_cases hv hthere' hclock issueId identifier cost hkind hwindow).imp ?_ id
  rintro ⟨hwrites, hsaved⟩
  unfold Saved at hsaved ⊢
  rw [hsame] at hsaved
  exact ⟨hwrites, hsaved⟩

include htables hthere hclock hpost in
/-- A failed cycle is announced exactly if the window of its touchpoint is admitted. -/
lemma announces_iff {kind : TouchpointKind} {window : Binary64}
    (hkind : (Strategy.forCycles
      ((w.store.workflowOf issueId).cycleCount + 1)).touchpointKind? = some kind)
    (hwindow : e.windows.window? kind = some window) :
    e.Announces issueId identifier summary cost w kind ↔ kind.Admits window := by
  rw [TouchpointKind.admits_iff]
  rcases recordFailure_cases htables hthere hclock issueId identifier summary cost hkind hwindow
    with ⟨hwrites, n, id, hasks, hissue, hresult, hrows⟩ | ⟨hnot, fault, u, hfault⟩
  · have hsilent : e.silent.recordFailure issueId identifier summary cost w =
        (.ok (some { n with id := some (id : Int) }),
          (e.silent.recordFailure issueId identifier summary cost w).2) :=
      Prod.ext hresult rfl
    constructor
    · rintro ⟨n', t, u, hsilent', -, -, -, -, -, hrows', -, hread⟩
      rw [hsilent] at hsilent'
      obtain ⟨hn, rfl⟩ := Prod.mk.inj hsilent'
      obtain rfl := Option.some.inj (Except.ok.inj hn)
      rw [hrows] at hrows'
      obtain rfl := List.singleton_inj.1 (List.append_cancel_left hrows')
      have hkept := (Touchpoint.toNotification_ofNotification id hasks.unanswered).1 hread
      rw [hasks.timeout] at hkept
      exact ⟨hwrites, hkept⟩
    · rintro ⟨-, hkept⟩
      rw [← hasks.timeout] at hkept
      refine ⟨_, .ofNotification id n, _, hsilent, recordFailure_of_silent hpost hsilent,
        hasks.kind, hissue, hasks.postedAt, ?_, hrows, Touchpoint.isOpen_ofNotification id n,
        (Touchpoint.toNotification_ofNotification id hasks.unanswered).2 hkept⟩
      rw [hwindow, hasks.timeout]
  · constructor
    · rintro ⟨n', t, u', hsilent', -⟩
      rw [hfault] at hsilent'
      cases (Prod.mk.inj hsilent').1
    · exact fun h => absurd h.1 hnot

include htables in
/-- Where the strategy calls for no touchpoint a failed cycle is counted and that is all. -/
lemma recordFailure_of_none
    (hkind : (Strategy.forCycles
      ((w.store.workflowOf issueId).cycleCount + 1)).touchpointKind? = none) :
    (e.recordFailure issueId identifier summary cost w).1 = .ok none := by
  obtain ⟨state, v, hstrategy, -, hrecord⟩ := e.exists_counted
    (htables.mono (by simp)) issueId identifier summary cost
  have hnone (subject : Notification.Subject) (now : Binary64) :
      e.notification? state.strategy subject now = .ok none := by
    rw [← hstrategy] at hkind
    unfold notification?
    cases hcase : state.strategy with
    | normal => rfl
    | other name => rfl
    | contextEnriched => rw [hcase] at hkind; cases hkind
    | decompose => rw [hcase] at hkind; cases hkind
    | escalateHuman => rw [hcase] at hkind; cases hkind
  rw [hrecord, respond, hnone]
  rfl

include htables hthere hclock hpost in
/-- **Settings support escalation as far as the windows that they give can be written and kept.**  A
manager of escalation that is built from accepted settings announces a failed cycle exactly if the
time that they give for the touchpoint of the new strategy is finite, or endless and the touchpoint
is an alert. -/
theorem supports_iff_admits {raw : Value} {s : Settings} (hraw : Settings.build raw = .ok s)
    (hwindows : e.windows = s.touchpoints) (issueId identifier : String) (summary : Option String)
    (cost : Option Binary64) :
    e.Supports issueId identifier summary cost w ↔
      ∀ kind ∈ (Strategy.forCycles
          ((w.store.workflowOf issueId).cycleCount + 1)).touchpointKind?,
        ∃ given window, Settings.givenWindow raw kind = .ok given ∧
          Settings.duration given = .ok window ∧ kind.Admits window := by
  unfold Supports
  split
  · rename_i kind hkind
    obtain ⟨window, hwindow⟩ := e.windows.exists_window hkind
    obtain ⟨given, hgiven, hduration⟩ :=
      Settings.exists_givenWindow hraw (hwindows ▸ hwindow)
    rw [announces_iff htables hthere hclock hpost hkind hwindow]
    constructor
    · rintro hadmits kind' hkind'
      obtain rfl := Option.some.inj (hkind'.symm.trans hkind)
      exact ⟨given, window, hgiven, hduration, hadmits⟩
    · intro h
      obtain ⟨given', window', hgiven', hduration', hadmits⟩ := h kind hkind
      obtain rfl := Except.ok.inj (hgiven.symm.trans hgiven')
      obtain rfl := Except.ok.inj (hduration.symm.trans hduration')
      exact hadmits
  · rename_i hkind
    refine iff_of_true (recordFailure_of_none htables hkind) ?_
    intro kind hkind'
    cases hkind.symm.trans hkind'

end Outcome

end Escalation

/-! ### Two settings files -/

/-- What has been read is there. -/
lemma eq_ok_of_toOption {α : Type} {x : Except Fault α} {a : α} (h : x.toOption = some a) :
    x = .ok a := by
  cases x with
  | error fault => cases h
  | ok b => exact congrArg Except.ok (Option.some.inj h)

/-- Settings with some windows can be built. -/
lemma Settings.exists_build {raw : Value} {windows : TouchpointSettings}
    (h : (build raw).toOption.map touchpoints = some windows) :
    ∃ s, build raw = .ok s ∧ s.touchpoints = windows := by
  obtain ⟨s, hs, hwindows⟩ := Option.map_eq_some_iff.1 h
  exact ⟨s, eq_ok_of_toOption hs, hwindows⟩

/-- Raw settings by which humans never have to respond. -/
def Settings.unhurried : Value := .object [(.str "human_response_timeout_seconds", .str "never")]

/-- Raw settings by which humans never have to respond but to review requests. -/
def Settings.reviewed : Value := .object [
  (.str "human_response_timeout_seconds", .str "never"),
  (.str "touchpoints", .object [(.str "review_request_timeout_seconds", .str "5400")])]

namespace Escalation

/-- A review request with a window of its own is announced, and its comment posted. -/
theorem supports_iff_admits_reviewed :
    ∃ s, Settings.build Settings.reviewed = .ok s ∧
      ({ shelf := .shared, windows := s.touchpoints, postComment := some fun _ _ => pure () } :
        Escalation Unit).Supports "a" "A" (some "build failed") (some 2) World.fresh := by
  let windows : TouchpointSettings := { Settings.standard.touchpoints with reviewRequest := 5400 }
  obtain ⟨s, hbuild, -⟩ : ∃ s, Settings.build Settings.reviewed = .ok s ∧ s.touchpoints = windows :=
    Settings.exists_build (by decide +kernel)
  refine ⟨s, hbuild, (supports_iff_admits (Store.has_of_missing rfl _)
    (OverrideShelf.isThere_of_missing rfl) rfl ?_ hbuild rfl _ _ _ _).2 ?_⟩
  · rintro post hpost issueId body v
    obtain rfl := Option.some.inj hpost
    rfl
  · intro kind hkind
    obtain rfl : TouchpointKind.reviewRequest = kind := Option.some.inj hkind
    exact ⟨.str "5400", 5400, rfl, eq_ok_of_toOption (by decide +kernel),
      Or.inl (by decide +kernel)⟩

/-- The manager of escalation where humans never have to respond. -/
def unhurried : Escalation Unit where
  shelf := .shared
  windows := { Settings.standard.touchpoints with reviewRequest := .infinity false }

/-- Settings that are accepted need not support escalation: where humans never have to respond, the
first failed cycle of an issue is counted, and then ends in a fault before anything is posted. -/
theorem not_supports_unhurried :
    (∃ s, Settings.build Settings.unhurried = .ok s ∧ s.touchpoints = unhurried.windows) ∧
      ¬ unhurried.Supports "a" "A" (some "build failed") none World.fresh ∧
      ∃ w, (unhurried.recordFailure "a" "A" (some "build failed") none World.fresh).2 = w ∧
        (w.store.workflowOf "a").cycleCount = 1 ∧ w.store.touchpoints = [] := by
  refine ⟨Settings.exists_build (by decide +kernel), ?_, _, rfl, by decide +kernel,
    by decide +kernel⟩
  intro h
  obtain ⟨n, t, v, -, hrecord, -⟩ :
    unhurried.Announces "a" "A" (some "build failed") none World.fresh .reviewRequest := h
  have hfault : (unhurried.recordFailure "a" "A" (some "build failed") none
    World.fresh).1.isOk = false := by decide +kernel
  rw [hrecord] at hfault
  cases hfault

end Escalation

end IssueDispatch
