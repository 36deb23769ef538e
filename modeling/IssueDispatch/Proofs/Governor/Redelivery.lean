import IssueDispatch.Proofs.Bus
import IssueDispatch.Proofs.Dedup
import IssueDispatch.Proofs.Governor.Keeping
import IssueDispatch.Proofs.Standard

/-!
# Redelivered events

An event whose handling fails stays unacknowledged, so that a bus can deliver it again.  But a
deduplicator notes an event before it is handled, and keeps the note when the handling fails.  So
an event that comes back within the window is dropped as a repeat of itself, and is acknowledged
although nobody has handled it.

`Call` records what can be seen of one call, and the theorem at the end says of every run exactly
when each acknowledged event has been handled.  The invariant `Remembers` connects the memory of
the deduplicator with the calls so far: what it remembers are the times of calls that were not
dropped, and what it has forgotten is outside the window for good.
-/

namespace IssueDispatch

variable {ω : Type}

/-! ## What a deduplicator goes by -/

/-- The world at a moment to come. -/
def World.waitUntil (t : Binary64) (w : World ω) : World ω :=
  if t.isFinite then { w with clock := max w.clock t } else w

namespace Dedup

/-- The memory of a deduplicator has not changed, and the clock has not gone back. -/
structure Retains (d : Dedup) (w w' : World ω) : Prop where
  memory : d.memory w' = d.memory w
  clock : w.clock.isFinite = true → w'.clock.isFinite = true ∧ w.clock ≤ w'.clock

variable {d : Dedup} {w w' : World ω}

instance : IsPreorder (World ω) d.Retains where
  refl w := ⟨rfl, fun h => ⟨h, Binary64.le_self h⟩⟩
  trans w v w' h h' := by
    refine ⟨h'.memory.trans h.memory, fun hfinite => ?_⟩
    obtain ⟨hv, hle⟩ := h.clock hfinite
    obtain ⟨hw', hle'⟩ := h'.clock hv
    exact ⟨hw', Binary64.le_trans hle hle'⟩

/-- Where the clock and all reports stay as they are, a deduplicator retains its memory. -/
lemma Retains.of_eq (hclock : w'.clock = w.clock) (hhere : w'.sightings = w.sightings)
    (hstored : w'.store.sightings = w.store.sightings) : d.Retains w w' where
  memory := by
    cases d with
    | inProcess window => exact hhere
    | stored window => exact hstored
  clock h := by
    rw [hclock]
    exact ⟨h, Binary64.le_self h⟩

lemma Retains.of_onlyLapsed (h : World.OnlyLapsed w w') : d.Retains w w' := by
  refine .of_eq h.clock ?_ ?_ <;> rw [h.frame]

lemma Retains.of_onlySteers (h : World.OnlySteers w w') : d.Retains w w' := by
  refine .of_eq ?_ ?_ ?_
  · rw [h.frame]
  · rw [h.frame]
  · rw [h.store]

lemma Retains.of_onlyBus (h : World.OnlyBus w w') : d.Retains w w' := by
  refine .of_eq ?_ ?_ ?_
  · rw [h.frame]
  · rw [h.frame]
  · rw [h.store]

/-- Waiting leaves the memory of a deduplicator alone. -/
lemma Retains.of_waitUntil (t : Binary64) (w : World ω) : d.Retains w (w.waitUntil t) := by
  rw [World.waitUntil]
  split
  · rename_i ht
    refine ⟨by cases d <;> rfl, fun h => ?_⟩
    exact ⟨Binary64.isFinite_max h ht, Binary64.le_max (Binary64.le_self h) t⟩
  · exact refl w

/-- Collaborators that answer from the shared store leave the memory of a deduplicator alone. -/
lemma keep_collaborators {b : StoreBacked ω} (hquiet : b.tracker.IsQuiet) :
    b.collaborators.Keep d.Retains :=
  StoreBacked.keep_collaborators hquiet (fun _ _ => .of_onlyLapsed) fun _ _ _ => .of_eq rfl rfl rfl

end Dedup

/-! ## Calls -/

/-- How a call for an event went: the deduplicator gave no answer, or the event was dropped as a
repeat, or its handling failed or was completed. -/
inductive Outcome where
  | unanswered
  | dropped
  | failed
  | completed
deriving DecidableEq

/-- What can be seen of a call for an event. -/
structure Call where
  key : String
  time : Binary64
  outcome : Outcome
  isAcked : Bool
deriving DecidableEq

namespace Call

/-- Whether the event of a call has been handled, by the call itself or by an earlier one. -/
def IsHandled (before : List Call) (c : Call) : Prop :=
  c.outcome = .completed ∨ ∃ c' ∈ before, c'.key = c.key ∧ c'.outcome = .completed

/-- Whether no call for the event has failed less than a window before, unless another one has
completed. -/
def IsClear (window : Binary64) (before : List Call) (c : Call) : Prop :=
  (∃ c' ∈ before, c'.key = c.key ∧ c'.outcome = .completed) ∨
    ∀ f ∈ before, f.key = c.key → f.outcome = .failed → ¬ c.time - f.time < window

/-- Every acknowledged event of some calls has a property. -/
def AllAcked (P : List Call → Call → Prop) (cs : List Call) : Prop :=
  ∀ before c after, cs = before ++ c :: after → c.isAcked = true → P before c

/-- Whether a call has left a note with the deduplicator. -/
def IsNoted (c : Call) : Prop := c.outcome = .failed ∨ c.outcome = .completed

instance (before : List Call) (c : Call) : Decidable (c.IsHandled before) :=
  inferInstanceAs (Decidable (_ ∨ _))

end Call

/-- What happens to a governor: it is called for an event, or something happens elsewhere that
leaves the memory of the deduplicator alone. -/
inductive Happening (ω : Type) (d : Dedup) where
  | event (id : String) (e : Event)
  | elsewhere (f : World ω → World ω) (retains : ∀ w, d.Retains w (f w))

namespace EventGovernor

variable {g : EventGovernor ω} {d : Dedup}

/-- How a call for an event goes. -/
def outcome (g : EventGovernor ω) (e : Event) (w : World ω) : Outcome :=
  match g.isRepeat e w with
  | (.error _, _) => .unanswered
  | (.ok true, _) => .dropped
  | (.ok false, v) =>
    match g.react e v with
    | (.error _, _) => .failed
    | (.ok (), _) => .completed

/-- What can be seen of a call for an event.  It ends without a fault exactly if the event has been
acknowledged. -/
def call (g : EventGovernor ω) (id : String) (e : Event) (w : World ω) : Call where
  key := e.key
  time := w.clock
  outcome := g.outcome e w
  isAcked := (g.process id (some e) w).1.isOk

/-- The calls of a run. -/
def calls (g : EventGovernor ω) : List (Happening ω d) → World ω → List Call
  | [], _ => []
  | .event id e :: rest, w => g.call id e w :: g.calls rest (g.process id (some e) w).2
  | .elsewhere f _ :: rest, w => g.calls rest (f w)

/-! ## One call -/

section Step

variable {e : Event} {id : String} {window : Binary64} {w v : World ω}

/-- An event is a repeat if the deduplicator says so. -/
lemma isRepeat_eq (hdedup : g.dedup = some d)
    (hwindow : g.settings.dedupWindow.toBinary64 = .ok window) (e : Event) (w : World ω) :
    g.isRepeat e w = d.seen e.key (some window) w := by
  rw [isRepeat, hdedup]
  dsimp only
  rw [hwindow]
  exact Run.bind_of_ok (Run.ofExcept_apply _ w)

/-- Nothing that is done for an event touches the memory of the deduplicator. -/
lemma react_retains (hkeep : g.collaborators.Keep d.Retains) (e : Event) :
    (g.react e).Keeps d.Retains :=
  react_keeps (.of_imp fun _ _ h => h)
    (fun escalation _ directive _ =>
      (escalation.apply_keeps e.issueId directive).mono fun _ _ => .of_onlySteers)
    (Governor.handle_keeps hkeep e.issue)

lemma ack_retains (g : EventGovernor ω) (d : Dedup) (id : String) :
    (g.bus.ack id : Run (World ω) Unit).Keeps d.Retains :=
  (g.bus.ack_keeps id).mono fun _ _ => .of_onlyBus

/-- A call comes to acknowledging its event if the event was dropped or its handling was completed.
Otherwise it ends with a fault before that. -/
lemma process_cases (g : EventGovernor ω) (id : String) (e : Event) (w : World ω) :
    ((g.outcome e w = .dropped ∨ g.outcome e w = .completed) ∧
        ∃ v, g.process id (some e) w = g.bus.ack id v) ∨
      ((g.outcome e w = .unanswered ∨ g.outcome e w = .failed) ∧
        ∃ fault v, g.process id (some e) w = (.error fault, v)) := by
  rcases hasked : g.isRepeat e w with ⟨fault | r, v⟩
  · refine Or.inr ⟨Or.inl ?_, fault, v, process_of_unanswered hasked⟩
    rw [outcome, hasked]
  · cases r with
    | true =>
      refine Or.inl ⟨Or.inl ?_, v, process_of_repeat hasked⟩
      rw [outcome, hasked]
    | false =>
      rcases hreact : g.react e v with ⟨fault | _, u⟩
      · refine Or.inr ⟨Or.inr ?_, fault, u, ?_⟩
        · rw [outcome, hasked]
          dsimp only
          rw [hreact]
        · rw [process_of_not_repeat hasked, Run.bind_of_error hreact]
      · refine Or.inl ⟨Or.inr ?_, u, ?_⟩
        · rw [outcome, hasked]
          dsimp only
          rw [hreact]
        · rw [process_of_not_repeat hasked, Run.bind_of_ok hreact]

/-- An event is not acknowledged unless it is dropped or its handling is completed. -/
lemma outcome_of_isAcked (hacked : (g.call id e w).isAcked = true) :
    (g.call id e w).outcome = .dropped ∨ (g.call id e w).outcome = .completed := by
  rcases g.process_cases id e w with ⟨hdone, -⟩ | ⟨-, fault, v, hfault⟩
  · exact hdone
  · rw [call, hfault] at hacked
    cases hacked

/-- What a call does to the memory of the deduplicator: nothing if it gets no answer; or the event
is hidden and dropped; or it is noted, be it that its handling fails. -/
lemma noting_cases (hdedup : g.dedup = some d)
    (hwindow : g.settings.dedupWindow.toBinary64 = .ok window) (hpos : 0 < window)
    (hkeep : g.collaborators.Keep d.Retains) (hsound : Dedup.IsSound (d.memory w))
    (hnow : w.clock.isFinite = true) (id : String) (e : Event) :
    ((g.call id e w).outcome = .unanswered ∧ (g.process id (some e) w).2 = w) ∨
      ∃ v, v.clock = w.clock ∧ d.Retains v (g.process id (some e) w).2 ∧
        (((g.call id e w).outcome = .dropped ∧
            Dedup.Noting window e.key w.clock (d.memory w) true (d.memory v)) ∨
          ((g.call id e w).IsNoted ∧
            Dedup.Noting window e.key w.clock (d.memory w) false (d.memory v))) := by
  have hasked := isRepeat_eq hdedup hwindow e w
  rcases d.seen_cases hsound hpos hnow e.key with ⟨r, v, hseen, hclock, hnoting⟩ | ⟨fault, hseen⟩
  · rw [hseen] at hasked
    refine Or.inr ⟨v, hclock, ?_⟩
    cases r with
    | true =>
      rw [process_of_repeat hasked]
      refine ⟨ack_retains g d id v, Or.inl ⟨?_, hnoting⟩⟩
      rw [call, outcome, hasked]
    | false =>
      rw [process_of_not_repeat hasked]
      refine ⟨((react_retains hkeep e).bind fun _ => ack_retains g d id) v, Or.inr ⟨?_, hnoting⟩⟩
      rw [Call.IsNoted, call, outcome, hasked]
      dsimp only
      rcases g.react e v with ⟨fault | _, u⟩
      · exact Or.inl rfl
      · exact Or.inr rfl
  · rw [hseen] at hasked
    refine Or.inl ⟨?_, ?_⟩
    · rw [call, outcome, hasked]
    · rw [process_of_unanswered hasked]

end Step

end EventGovernor

/-! ## Memory and history -/

namespace Dedup

/-- How the memory of a deduplicator reflects the calls so far. -/
structure Remembers (d : Dedup) (window : Binary64) (before : List Call) (w : World ω) : Prop where
  clock : w.clock.isFinite = true
  past : ∀ c ∈ before, c.time.isFinite = true ∧ c.time ≤ w.clock
  sound : IsSound (d.memory w)
  /-- Whatever is remembered is the time of a call that left a note. -/
  source : ∀ x ∈ d.memory w, ∃ c ∈ before, c.IsNoted ∧ c.key = x.key ∧ c.time = x.seenAt
  /-- As long as a note is less than a window ago its key is hidden, now and later. -/
  hides : ∀ c ∈ before, c.IsNoted → ∀ t : Binary64, t.isFinite = true → w.clock ≤ t →
    t - c.time < window → Hides (d.memory w) window c.key t

variable {d : Dedup} {window : Binary64} {before : List Call} {c : Call} {w w' : World ω}

namespace Remembers

/-- At the beginning there is nothing to remember. -/
lemma of_nil (hclock : w.clock.isFinite = true) (hempty : d.memory w = []) :
    d.Remembers window [] w where
  clock := hclock
  past c hc := absurd hc List.not_mem_nil
  sound := by
    rw [hempty]
    exact IsSound.nil
  source x hx := by
    rw [hempty] at hx
    cases hx
  hides c hc := absurd hc List.not_mem_nil

/-- The memory stays up to date while only time passes. -/
lemma retains (h : d.Remembers window before w) (hretains : d.Retains w w') :
    d.Remembers window before w' := by
  obtain ⟨hclock, hle⟩ := hretains.clock h.clock
  refine ⟨hclock, fun c hc => ?_, ?_, ?_, fun c hc hnoted t ht hlater hlate => ?_⟩
  · obtain ⟨hfinite, hpast⟩ := h.past c hc
    exact ⟨hfinite, Binary64.le_trans hpast hle⟩
  · rw [hretains.memory]
    exact h.sound
  · rw [hretains.memory]
    exact h.source
  · rw [hretains.memory]
    exact h.hides c hc hnoted t ht (Binary64.le_trans hle hlater) hlate

/-- A call that is made now belongs to the past from then on. -/
lemma past_append (h : d.Remembers window before w) (htime : c.time = w.clock) :
    ∀ c' ∈ before ++ [c], c'.time.isFinite = true ∧ c'.time ≤ w.clock := by
  intro c' hc'
  rcases List.mem_append.1 hc' with hc' | hc'
  · exact h.past c' hc'
  · rw [List.mem_singleton.1 hc', htime]
    exact ⟨h.clock, Binary64.le_self h.clock⟩

/-- What is outside the window stays outside. -/
lemma not_lt_of_forgotten (h : d.Remembers window before w) {x : Sighting} (hx : x ∈ d.memory w)
    (hold : window ≤ w.clock - x.seenAt) {t : Binary64} (ht : t.isFinite = true)
    (hlater : w.clock ≤ t) : ¬ t - x.seenAt < window := by
  have hfinite := h.sound.times x hx
  have hage : w.clock - x.seenAt ≤ t - x.seenAt :=
    Binary64.sub_le_sub hfinite hfinite h.clock ht hlater (Binary64.le_self hfinite)
  exact Binary64.not_lt_of_le (Binary64.le_trans hold hage)

/-- A call that leaves no note adds nothing to what has to be remembered. -/
lemma append_of_not_isNoted (h : d.Remembers window before w) (hnot : ¬ c.IsNoted)
    (htime : c.time = w.clock) : d.Remembers window (before ++ [c]) w where
  clock := h.clock
  past := h.past_append htime
  sound := h.sound
  source x hx := by
    obtain ⟨c', hc', hnoted⟩ := h.source x hx
    exact ⟨c', List.mem_append_left _ hc', hnoted⟩
  hides c' hc' hnoted := by
    rcases List.mem_append.1 hc' with hc' | hc'
    · exact h.hides c' hc' hnoted
    · rw [List.mem_singleton.1 hc'] at hnoted
      exact absurd hnoted hnot

/-- What is forgotten upon a repeat is outside the window and stays so. -/
lemma of_hidden (h : d.Remembers window before w) (hclock : w'.clock = w.clock) {key : String}
    (hnoting : Noting window key w.clock (d.memory w) true (d.memory w')) :
    d.Remembers window before w' := by
  cases hnoting with
  | hidden hhides hsub hforgotten =>
    refine ⟨?_, ?_, h.sound.sublist hsub, fun x hx => h.source x (hsub.subset hx), ?_⟩
    · rw [hclock]
      exact h.clock
    · rw [hclock]
      exact h.past
    · rw [hclock]
      intro c hc hnoted t ht hlater hlate
      obtain ⟨x, hx, hkey, hxlate⟩ := h.hides c hc hnoted t ht hlater hlate
      rcases hforgotten x hx with hkept | hold
      · exact ⟨x, hkept, hkey, hxlate⟩
      · exact absurd hxlate (h.not_lt_of_forgotten hx hold ht hlater)

/-- A new note hides its key from now on, and hides no less than the note that it replaces. -/
lemma of_noted (h : d.Remembers window before w) (hclock : w'.clock = w.clock)
    (hnoted : c.IsNoted) (htime : c.time = w.clock)
    (hnoting : Noting window c.key w.clock (d.memory w) false (d.memory w')) :
    d.Remembers window (before ++ [c]) w' := by
  cases hnoting with
  | noted _ hmem hsound hsub hforgotten =>
    have hcall : c ∈ before ++ [c] := List.mem_append_right _ (List.mem_singleton_self c)
    refine ⟨?_, ?_, hsound, fun x hx => ?_, ?_⟩
    · rw [hclock]
      exact h.clock
    · rw [hclock]
      exact h.past_append htime
    · rcases hsub x hx with rfl | hold
      · exact ⟨c, hcall, hnoted, rfl, htime⟩
      · obtain ⟨c', hc', hsource⟩ := h.source x hold
        exact ⟨c', List.mem_append_left _ hc', hsource⟩
    · rw [hclock]
      intro c' hc' hnoted' t ht hlater hlate
      rcases List.mem_append.1 hc' with hc' | hc'
      · obtain ⟨x, hx, hkey, hxlate⟩ := h.hides c' hc' hnoted' t ht hlater hlate
        rcases hforgotten x hx with hreplaced | hkept | hold
        · -- The note that has been replaced is not later than the new one.
          obtain ⟨hfinite, hpast⟩ := h.past c' hc'
          have hage := Binary64.sub_le_sub hfinite h.clock ht ht (Binary64.le_self ht) hpast
          exact ⟨⟨c.key, w.clock⟩, hmem, hreplaced.symm.trans hkey,
            Binary64.lt_of_le_of_lt hage hlate⟩
        · exact ⟨x, hkept, hkey, hxlate⟩
        · exact absurd hxlate (h.not_lt_of_forgotten hx hold ht hlater)
      · rw [List.mem_singleton.1 hc', htime] at hlate
        rw [List.mem_singleton.1 hc']
        exact ⟨⟨c.key, w.clock⟩, hmem, rfl, hlate⟩

end Remembers

end Dedup

/-! ## Runs -/

namespace EventGovernor

variable {g : EventGovernor ω} {d : Dedup} {window : Binary64} {before : List Call} {w : World ω}

/-- After a call the memory reflects that call too. -/
lemma remembers_process (hdedup : g.dedup = some d)
    (hwindow : g.settings.dedupWindow.toBinary64 = .ok window) (hpos : 0 < window)
    (hkeep : g.collaborators.Keep d.Retains) (h : d.Remembers window before w) (id : String)
    (e : Event) :
    d.Remembers window (before ++ [g.call id e w]) (g.process id (some e) w).2 := by
  rcases noting_cases hdedup hwindow hpos hkeep h.sound h.clock id e with
    ⟨houtcome, hsame⟩ | ⟨v, hclock, hretains, ⟨houtcome, hnoting⟩ | ⟨hnoted, hnoting⟩⟩
  · rw [hsame]
    refine h.append_of_not_isNoted ?_ rfl
    rw [Call.IsNoted, houtcome]
    decide
  · refine ((h.of_hidden hclock hnoting).append_of_not_isNoted ?_ hclock.symm).retains hretains
    rw [Call.IsNoted, houtcome]
    decide
  · exact (h.of_noted hclock hnoted rfl hnoting).retains hretains

/-- A call that acknowledges an event has not failed, and the event has been handled exactly if no
failure stands in the way. -/
lemma isHandled_iff_isClear (hdedup : g.dedup = some d)
    (hwindow : g.settings.dedupWindow.toBinary64 = .ok window) (hpos : 0 < window)
    (hkeep : g.collaborators.Keep d.Retains) (h : d.Remembers window before w) {id : String}
    {e : Event} (hacked : (g.call id e w).isAcked = true) :
    (g.call id e w).outcome ≠ .failed ∧
      ((g.call id e w).IsHandled before ↔ (g.call id e w).IsClear window before) := by
  have hdone := outcome_of_isAcked hacked
  have hnot : (g.call id e w).outcome ≠ .failed := by
    rcases hdone with hdone | hdone <;> simp [hdone]
  refine ⟨hnot, ?_⟩
  rcases noting_cases hdedup hwindow hpos hkeep h.sound h.clock id e with
    ⟨houtcome, -⟩ | ⟨v, -, -, ⟨houtcome, hnoting⟩ | ⟨hnoted, hnoting⟩⟩
  · simp [houtcome] at hdone
  · -- The event was dropped, so only an earlier call can have handled it.
    cases hnoting with
    | hidden hhides =>
      constructor
      · rintro (hcompleted | hearlier)
        · rw [houtcome] at hcompleted
          cases hcompleted
        · exact Or.inl hearlier
      · rintro (hearlier | hclear)
        · exact Or.inr hearlier
        · obtain ⟨x, hx, hkey, hlate⟩ := hhides
          obtain ⟨c, hc, hnoted, hckey, hctime⟩ := h.source x hx
          have hsame : c.key = (g.call id e w).key := hckey.trans hkey
          rcases hnoted with hfailed | hcompleted
          · refine absurd ?_ (hclear c hc hsame hfailed)
            rw [hctime]
            exact hlate
          · exact Or.inr ⟨c, hc, hsame, hcompleted⟩
  · -- The event was handled now, so no call before it has left a note inside the window.
    have hcompleted := hnoted.resolve_left hnot
    cases hnoting with
    | noted hfree =>
      refine iff_of_true (Or.inl hcompleted) (Or.inr fun f hf hkey hfailed hlate => hfree ?_)
      have hhides := h.hides f hf (Or.inl hfailed) w.clock h.clock (Binary64.le_self h.clock) hlate
      rw [hkey] at hhides
      exact hhides

/-- The same for every call of a run. -/
lemma isHandled_iff_isClear_of_mem_calls (hdedup : g.dedup = some d)
    (hwindow : g.settings.dedupWindow.toBinary64 = .ok window) (hpos : 0 < window)
    (hkeep : g.collaborators.Keep d.Retains) (hs : List (Happening ω d))
    (h : d.Remembers window before w) {earlier later : List Call} {c : Call}
    (hcalls : g.calls hs w = earlier ++ c :: later) (hacked : c.isAcked = true) :
    c.outcome ≠ .failed ∧
      (c.IsHandled (before ++ earlier) ↔ c.IsClear window (before ++ earlier)) := by
  induction hs generalizing before w earlier with
  | nil =>
    cases earlier <;> cases hcalls
  | cons happening rest ih =>
    cases happening with
    | elsewhere f hretains => exact ih (h.retains (hretains w)) hcalls
    | event id e =>
      cases earlier with
      | nil =>
        obtain ⟨rfl, -⟩ := List.cons.inj hcalls
        rw [List.append_nil]
        exact isHandled_iff_isClear hdedup hwindow hpos hkeep h hacked
      | cons first earlier =>
        obtain ⟨rfl, hrest⟩ := List.cons.inj hcalls
        have hprocessed := remembers_process hdedup hwindow hpos hkeep h id e
        rw [List.append_cons]
        exact ih hprocessed hrest

/-- Let a governor start with a deduplicator that remembers nothing.  No call that fails
acknowledges its event.  An event that a call acknowledges has been handled, by that call or by an
earlier one for the same occurrence, exactly if no call for it has failed less than a window before,
or another one has completed after all. -/
theorem acked_handled_iff_clear (hdedup : g.dedup = some d)
    (hwindow : g.settings.dedupWindow.toBinary64 = .ok window) (hpos : 0 < window)
    (hkeep : g.collaborators.Keep d.Retains) (hclock : w.clock.isFinite = true)
    (hempty : d.memory w = []) (hs : List (Happening ω d)) :
    Call.AllAcked (fun before c => c.outcome ≠ .failed ∧
      (c.IsHandled before ↔ c.IsClear window before)) (g.calls hs w) := by
  intro before c after hcalls hacked
  have hstart : d.Remembers window [] w := .of_nil hclock hempty
  exact isHandled_iff_isClear_of_mem_calls hdedup hwindow hpos hkeep hs hstart hcalls hacked

/-- A world in which the tables of the store are yet to be created. -/
def outage : World Unit := { World.fresh with store := .blank }

/-- The first report of an issue meets an outage and fails.  It comes back once the outage is over,
`seconds` later, and then once more. -/
def returning (d : Dedup) (seconds : Binary64) : List (Happening Unit d) :=
  [.event "mem-1" (.found "a"),
    .elsewhere (fun w => { w with store := w.store.create }) fun _ => .of_eq rfl rfl rfl,
    .elsewhere (World.waitUntil seconds) (.of_waitUntil seconds),
    .event "mem-2" (.found "a"), .event "mem-3" (.found "a")]

/-- Ten seconds after the failure the event is handled, and dropped only after that. -/
theorem acked_handled_iff_clear_returning :
    ((standard (.fixed [.inBacklog "a"] "s")).calls (returning (.inProcess 10) 10) outage).map
        (fun c => (c.outcome, c.isAcked)) =
      [(.failed, false), (.completed, true), (.dropped, true)] ∧
      Call.AllAcked (fun before c => c.outcome ≠ .failed ∧
          (c.IsHandled before ↔ c.IsClear 10 before))
        ((standard (.fixed [.inBacklog "a"] "s")).calls (returning (.inProcess 10) 10)
          outage) := by
  refine ⟨by decide +kernel, ?_⟩
  exact acked_handled_iff_clear rfl (by decide +kernel) (by decide +kernel)
    (Dedup.keep_collaborators (Tracker.isQuiet_fixed _ _)) (by decide) rfl _

/-- Nine seconds after the failure the event is dropped and acknowledged, although nobody has
handled it. -/
theorem not_acked_handled_returning :
    ¬ Call.AllAcked Call.IsHandled
      ((standard (.fixed [.inBacklog "a"] "s")).calls (returning (.inProcess 10) 9)
        outage) := by
  intro h
  have hcalls : (standard (.fixed [.inBacklog "a"] "s")).calls (returning (.inProcess 10) 9)
      outage = [⟨"a:Backlog", 0, .failed, false⟩] ++ ⟨"a:Backlog", 9, .dropped, true⟩ ::
        [⟨"a:Backlog", 9, .dropped, true⟩] := by
    decide +kernel
  exact absurd (h _ _ _ hcalls rfl) (by decide)

end EventGovernor

end IssueDispatch
