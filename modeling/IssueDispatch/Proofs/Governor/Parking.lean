import IssueDispatch.Proofs.Governor.Cycles

/-!
# Parked issues

A hold and a reassignment park an issue: while one of them stands, no governor creates a session for
the issue.  `OverrideShelf.parks` says of which issues this holds.  Overrides that never expire are
changed by directives and by failed cycles only, and failed cycles only ever park, so that a parked
issue stays parked until a directive is followed for it.

There is one override for an issue, and a directive replaces the one before, whatever either of them
orders.  So the directive that was followed last decides: an issue is released by `RESUME`, but a
priority or a call for decomposition releases it as well.
-/

namespace IssueDispatch

variable {ω : Type} {shelf : OverrideShelf} {issueId : String} {w w' : World ω}

/-! ## What parks an issue -/

/-- Whether a directive leaves an issue to a human. -/
def DirectiveKind.parks : DirectiveKind → Bool
  | hold | reassign => true
  | _ => false

/-- Whether an active override leaves its issue to a human. -/
def Override.parks (o : Override) : Bool := o.isActive && o.directive.kind.parks

/-- There are two ways to park an issue. -/
lemma Override.parks_eq (o : Override) : o.parks = (o.orders .hold || o.orders .reassign) := by
  unfold Override.parks Override.orders
  cases o.isActive
  · rfl
  · cases o.directive.kind <;> rfl

namespace OverrideShelf

/-- Whether an issue is parked for good. -/
def parks (shelf : OverrideShelf) (w : World ω) (issueId : String) : Bool :=
  (shelf.standing w issueId).any Override.parks

lemma parks_of_standing (h : shelf.standing w' issueId = shelf.standing w issueId) :
    shelf.parks w' issueId = shelf.parks w issueId := by
  rw [parks, parks, h]

/-- What parks an issue is in force. -/
lemma exists_inForce_of_parks (h : shelf.parks w issueId = true) :
    ∃ o, shelf.inForce w issueId = some o ∧ o.parks = true := by
  unfold parks at h
  rw [standing_eq] at h
  obtain ⟨o, ho, hparks⟩ := (Option.any_eq_true _ _).1 h
  exact ⟨o, (Option.filter_eq_some_iff.1 ho).1, hparks⟩

/-- A directive that is set for good parks its issue or releases it, depending on what it orders. -/
lemma exists_set_parks (hthere : shelf.IsThere w) (issueId : String) (d : Directive) :
    ∃ o w', shelf.set issueId d none w = (.ok o, w') ∧ ∀ other, shelf.parks w' other =
      if issueId = other then d.kind.parks else shelf.parks w other := by
  obtain ⟨w', hset, hstanding⟩ := set_of_isThere hthere issueId d
  refine ⟨_, w', hset, fun other => ?_⟩
  unfold parks
  rw [hstanding other]
  split
  · rfl
  · rfl

end OverrideShelf

/-- A parked issue is held. -/
lemma StoreBacked.isHeld_of_parks {b : StoreBacked ω} (hshelf : b.shelf = shelf)
    (hthere : shelf.IsThere w) (hparks : shelf.parks w issueId = true) :
    b.isHeld issueId w = (.ok true, w) := by
  subst hshelf
  obtain ⟨o, ho, horders⟩ := (Option.any_eq_true _ _).1 hparks
  rw [Override.parks_eq] at horders
  have hhold : b.shelf.isHeld issueId w = (.ok (o.orders .hold), w) :=
    OverrideShelf.hasDirective_of_standing hthere ho .hold
  rw [StoreBacked.isHeld, Run.bind_of_ok hhold]
  cases hheld : o.orders .hold with
  | true => rfl
  | false =>
    rw [hheld, Bool.false_or] at horders
    rw [if_neg Bool.false_ne_true, OverrideShelf.hasDirective_of_standing hthere ho .reassign,
      horders]

/-! ## What keeps an issue parked -/

/-- The sessions on record for an issue. -/
def Store.sessionsOf (s : Store) (issueId : String) : List Session :=
  s.sessions.filter fun x => x.issueId == issueId

namespace World

/-- An issue that is parked stays parked. -/
def KeepsParked (shelf : OverrideShelf) (issueId : String) (w w' : World ω) : Prop :=
  shelf.parks w issueId = true → shelf.parks w' issueId = true

/-- An issue that is parked stays parked and gets no session. -/
structure Spares (shelf : OverrideShelf) (issueId : String) (w w' : World ω) : Prop where
  parked : w.KeepsParked shelf issueId w'
  sessions : shelf.parks w issueId = true →
    w'.store.sessionsOf issueId = w.store.sessionsOf issueId

instance : IsPreorder (World ω) (KeepsParked shelf issueId) where
  refl _ h := h
  trans _ _ _ h h' hparks := h' (h hparks)

instance : IsPreorder (World ω) (Spares shelf issueId) where
  refl _ := ⟨id, fun _ => rfl⟩
  trans _ _ _ h h' := ⟨fun hparks => h'.parked (h.parked hparks), fun hparks =>
    (h'.sessions (h.parked hparks)).trans (h.sessions hparks)⟩

lemma KeepsParked.of_eq (h : shelf.parks w' issueId = shelf.parks w issueId) :
    w.KeepsParked shelf issueId w' := fun hparks => h.trans hparks

lemma KeepsParked.of_leavesSteering (h : w.LeavesSteering w') : w.KeepsParked shelf issueId w' :=
  .of_eq (OverrideShelf.parks_of_standing (h.standing shelf issueId))

/-- Work that has not changed gives nobody a session. -/
lemma Spares.of_sameWork (hparked : w.KeepsParked shelf issueId w') (h : w.SameWork w') :
    w.Spares shelf issueId w' where
  parked := hparked
  sessions _ := by rw [Store.sessionsOf, h.store.sessions, Store.sessionsOf]

/-- Overrides have nothing to do with records of failed cycles and touchpoints. -/
lemma OnlyTracks.parks (h : w.OnlyTracks w') (shelf : OverrideShelf) (issueId : String) :
    shelf.parks w' issueId = shelf.parks w issueId := by
  cases shelf with
  | shared =>
    rw [OverrideShelf.parks, OverrideShelf.standing, OverrideShelf.kept, h.store]
    rfl
  | inProcess =>
    rw [OverrideShelf.parks, OverrideShelf.standing, OverrideShelf.kept, h.frame]
    rfl

lemma Spares.of_onlyTracks (h : w.OnlyTracks w') : w.Spares shelf issueId w' :=
  .of_sameWork (.of_eq (h.parks shelf issueId)) (.of_onlyTracks h)

lemma Spares.of_onlyOutside (h : w.OnlyOutside w') : w.Spares shelf issueId w' :=
  have hlapsed := OnlyLapsed.of_onlyOutside h
  .of_sameWork (.of_leavesSteering (.of_onlyLapsed hlapsed)) (.of_onlyLapsed hlapsed)

/-- Quiet moves spare every issue. -/
lemma Spares.of_sameFacts (h : w.SameFacts w') : w.Spares shelf issueId w' where
  parked := .of_eq (OverrideShelf.parks_of_standing
    (OverrideShelf.standing_of_inForce (h.inForce shelf issueId)))
  sessions _ := by rw [Store.sessionsOf, h.sessions, Store.sessionsOf]

end World

namespace Escalation

variable (e : Escalation ω)

/-! ### Directives -/

/-- A directive that is put in force parks its issue or releases it, depending on what it orders, or
nothing is done.  Other issues are not concerned. -/
lemma parks_enforce (issueId : String) (d : Directive) (w : World ω) :
    (∃ v, e.enforce issueId d w = (.ok (), v) ∧ ∀ other, e.shelf.parks v other =
        if issueId = other then d.kind.parks else e.shelf.parks w other) ∨
      ∃ fault, e.enforce issueId d w = (.error fault, w) := by
  unfold enforce
  by_cases hresume : d.kind = .resume
  · rw [if_pos hresume]
    rcases e.shelf.clear_cases issueId w with ⟨v, hclear, hstanding⟩ | ⟨fault, hclear⟩
    · refine Or.inl ⟨v, hclear, fun other => ?_⟩
      unfold OverrideShelf.parks
      rw [hstanding other, hresume]
      split
      · rfl
      · rfl
    · exact Or.inr ⟨fault, hclear⟩
  · rw [if_neg hresume]
    by_cases hthere : e.shelf.IsThere w
    · obtain ⟨o, v, hset, hparks⟩ := OverrideShelf.exists_set_parks hthere issueId d
      exact Or.inl ⟨v, Run.bind_of_ok hset, hparks⟩
    · obtain ⟨fault, hset⟩ := OverrideShelf.set_of_not_isThere hthere issueId d none
      exact Or.inr ⟨fault, Run.bind_of_error hset⟩

/-- A directive that is followed to its end parks its issue or releases it, depending on what it
orders.  One that fails either has done so or leaves the issue as it was. -/
lemma parks_apply (issueId : String) (d : Directive) (w : World ω) :
    (∀ other, e.shelf.parks (e.apply issueId d w).2 other =
        if issueId = other then d.kind.parks else e.shelf.parks w other) ∨
      (∃ fault, (e.apply issueId d w).1 = .error fault) ∧
        ∀ other, e.shelf.parks (e.apply issueId d w).2 other = e.shelf.parks w other := by
  rw [apply_eq]
  have hmark := World.onStoreNow_keeps_onlyTracks (fun now =>
    (Store.markResponded_onlyTouchpoints issueId now).mono fun _ _ => .of_onlyTouchpoints) w
  rcases hmarked : World.onStoreNow (Store.markResponded issueId) w with ⟨fault | n, v⟩ <;>
    rw [hmarked] at hmark
  · refine Or.inr ?_
    rw [Run.bind_of_error hmarked]
    exact ⟨⟨fault, rfl⟩, hmark.parks e.shelf⟩
  · rw [Run.bind_of_ok hmarked]
    rcases e.parks_enforce issueId d v with ⟨u, henforce, hparks⟩ | ⟨fault, henforce⟩
    · refine Or.inl fun other => ?_
      rw [Run.bind_of_ok henforce, (adapt_onlyTracks issueId d u).parks, hparks other, hmark.parks]
    · refine Or.inr ?_
      rw [Run.bind_of_error henforce]
      exact ⟨⟨fault, rfl⟩, hmark.parks e.shelf⟩

/-- A directive that has been followed to its end decides whether its issue is parked. -/
lemma parks_of_apply {d : Directive} (h : e.apply issueId d w = (.ok (), w')) :
    e.shelf.parks w' issueId = d.kind.parks := by
  rcases e.parks_apply issueId d w with hparks | ⟨⟨fault, hfault⟩, -⟩
  · have := hparks issueId
    rwa [h, if_pos rfl] at this
  · rw [h] at hfault
    cases hfault

/-- A directive for another issue releases nothing, nor does one that parks. -/
lemma apply_keepsParked {other : String} {d : Directive}
    (hd : issueId = other → d.kind.parks = true) :
    (e.apply issueId d).Keeps (World.KeepsParked e.shelf other) := by
  intro w hparks
  rcases e.parks_apply issueId d w with h | ⟨-, h⟩
  · rw [h other]
    split
    · rename_i hissue
      exact hd hissue
    · exact hparks
  · rw [h other]
    exact hparks

/-! ### Failed cycles -/

variable {e}

/-- A hold that is set parks its issue, and it releases no other one. -/
lemma set_parking_keepsParked (issueId other : String) (now : Binary64) :
    (shelf.set issueId (parking now) none : Run (World ω) _).Keeps
      (World.KeepsParked shelf other) := by
  intro w hparks
  by_cases hthere : shelf.IsThere w
  · obtain ⟨o, v, hset, hparked⟩ :=
      OverrideShelf.exists_set_parks hthere issueId (parking now)
    rw [hset, hparked other]
    split
    · rfl
    · exact hparks
  · obtain ⟨fault, hset⟩ := OverrideShelf.set_of_not_isThere hthere issueId (parking now) none
    rw [hset]
    exact hparks

lemma saveTouchpoint_keepsParked (issueId : String) (n : Notification) {other : String} :
    (World.onStore (Store.saveTouchpoint issueId n) : Run (World ω) _).Keeps
      (World.KeepsParked shelf other) :=
  (World.onStore_keeps_onlyTracks ((Store.saveTouchpoint_onlyTouchpoints issueId n).mono
    fun _ _ => .of_onlyTouchpoints)).mono fun _ _ h => .of_eq (h.parks shelf other)

lemma IsInstalled.postComment_keepsParked (he : e.IsInstalled shelf)
    {post : String → String → Run (World ω) Unit} (hpost : post ∈ e.postComment)
    (issueId body : String) {other : String} :
    (post issueId body).Keeps (World.KeepsParked shelf other) :=
  (he.postComment post hpost issueId body).mono fun _ _ h =>
    (World.Spares.of_onlyOutside h).parked

/-- A failed cycle releases no issue. -/
lemma IsInstalled.recordFailure_keepsParked (he : e.IsInstalled shelf)
    (issueId identifier : String) (summary : Option String) (cost : Option Binary64)
    (other : String) :
    (e.recordFailure issueId identifier summary cost).Keeps (World.KeepsParked shelf other) := by
  refine e.recordFailure_keeps_of_onlyTracks (fun _ _ h => .of_eq (h.parks shelf other))
    (fun now => ?_) (fun post hpost body => ?_) identifier summary cost
  · rw [he.sameShelf]
    exact set_parking_keepsParked issueId other now
  · exact he.postComment_keepsParked hpost issueId body

/-- An issue that only a human can help is parked before anybody is told. -/
lemma IsInstalled.parks_respond (he : e.IsInstalled shelf) (hthere : shelf.IsThere w)
    (issueId identifier : String) (cost : Option Binary64) (now : Binary64) {state : WorkflowState}
    (hstate : state.strategy = .escalateHuman) :
    shelf.parks (e.respond issueId identifier cost now state w).2 issueId = true := by
  obtain ⟨o, v, hset, hparks⟩ := OverrideShelf.exists_set_parks hthere issueId (parking now)
  have hparked : shelf.parks v issueId = true := by
    rw [hparks issueId, if_pos rfl]
    rfl
  have hannounce (n : Notification) :
      (e.announce issueId n).Keeps (World.KeepsParked shelf issueId) := by
    refine e.announce_keeps (fun n => ?_) (fun post hpost body => ?_) n
    · exact saveTouchpoint_keepsParked issueId n
    · exact he.postComment_keepsParked hpost issueId body
  rw [respond, hstate, he.sameShelf]
  dsimp only [notification?]
  rw [Run.bind_of_ok (Run.ofExcept_apply _ w)]
  dsimp only
  rw [if_pos rfl, Run.bind_of_ok hset]
  exact hannounce _ v hparked

/-- The failed cycle that raises the count of an issue to four or more parks it, even if saving or
posting the alert fails. -/
lemma IsInstalled.parks_recordFailure (he : e.IsInstalled shelf) (hthere : shelf.IsThere w)
    {issueId identifier : String} {summary : Option String} {cost : Option Binary64}
    (hw' : (e.recordFailure issueId identifier summary cost w).2 = w')
    (hcounted : (w.store.workflowOf issueId).cycleCount < (w'.store.workflowOf issueId).cycleCount)
    (hfour : 4 ≤ (w'.store.workflowOf issueId).cycleCount) :
    shelf.parks w' issueId = true := by
  subst hw'
  by_cases h : w.store.Has [.workflowState]
  · obtain ⟨v, hnoted, hrecord⟩ := e.exists_noted h issueId identifier summary cost
    have hcount := (he.stage_recordFailure h issueId identifier summary cost).1
    have hstrategy : (counted v issueId w.clock).strategy = .escalateHuman := by
      refine Strategy.forCycles_of_le ?_
      rw [hnoted.record, WorkflowState.noteFailure_cycleCount, ← hcount]
      exact hfour
    have hv : shelf.IsThere { v with store := v.store.withWorkflow (counted v issueId w.clock) } :=
      hthere.of_sameTables (trans_of World.SameTables (.of_onlyTracks hnoted.onlyTracks) rfl)
    rw [hrecord, e.escalate_of_has (hnoted.has h)]
    exact he.parks_respond hv issueId identifier cost w.clock hstrategy
  · -- Without the table of records nothing is counted.
    obtain ⟨fault, hrecord⟩ := e.recordFailure_of_not_has h issueId identifier summary cost
    rw [hrecord] at hcounted
    exact absurd hcounted (Int.lt_irrefl _)

end Escalation

/-! ### Governors -/

namespace Governor

variable {g : Governor ω} {b : StoreBacked ω}

/-- No move creates a session for an issue that is parked. -/
lemma Move.spares {projects : List Value} {s s' : Stage ω} (hshelf : b.shelf = shelf)
    (issueId : String) (h : g.Move b projects s s') : s.world.Spares shelf issueId s'.world := by
  cases h with
  | quiet same | list _ _ same | decide _ _ _ same => exact .of_sameFacts same
  | @create _ issue _ _ _ _ clears _ creates =>
    -- A session is created only for an issue that has been cleared, and a parked one has not been.
    have hother (hparks : shelf.parks s.world issueId = true) : issue.id ≠ issueId := by
      intro hissue
      obtain ⟨o, ho, hpark⟩ := OverrideShelf.exists_inForce_of_parks hparks
      have hinForce : b.shelf.inForce s.world issue.id = some o := by rw [hshelf, hissue, ho]
      obtain ⟨hhold, hreassign⟩ := clears.notHeld o hinForce
      rw [Override.parks_eq, hhold, hreassign] at hpark
      cases hpark
    have hsessions {x : Session} (hx : x.issueId = issue.id)
        (hparks : shelf.parks s.world issueId = true) :
        (s.world.store.withSession x).sessionsOf issueId = s.world.store.sessionsOf issueId := by
      have hnone : (x.issueId == issueId) = false := by
        rw [hx]
        simpa using hother hparks
      unfold Store.sessionsOf
      rw [Store.withSession_sessions, List.filter_append, List.filter_cons, hnone]
      simp
    cases creates with
    | queued => exact ⟨.of_eq (by cases shelf <;> rfl), hsessions rfl⟩
    | unqueued => exact ⟨.of_eq (by cases shelf <;> rfl), hsessions rfl⟩

lemma Moves.spares {projects : List Value} {shown : List Issue} (hshelf : b.shelf = shelf)
    (issueId : String) (h : g.Moves b projects shown w w') : w.Spares shelf issueId w' :=
  h.imp (Move.spares hshelf issueId)

/-- No scan creates a session for an issue that is parked. -/
lemma IsInstalled.scan_spares (installed : g.IsInstalled b shelf) (issueId : String) :
    g.scan.Keeps (World.Spares shelf issueId) := by
  have hmoves {projects : List Value} {shown : List Issue} {w w' : World ω}
      (h : g.Moves b projects shown w w') : w.Spares shelf issueId w' :=
    h.spares installed.sameShelf issueId
  refine installed.scan_keeps_of_moves (.of_imp fun _ _ h => h) ?_ hmoves fun e _ => ?_
  · intro w w' scanning h
    have hbegun : g.Moves b [] [] w { w with scanning } := moves_scanning g b w scanning
    exact trans_of (World.Spares shelf issueId) (hmoves hbegun) h
  · exact (e.processTimeouts_keeps none).mono fun _ _ => .of_onlyTracks

end Governor

/-- No event creates a session for an issue that is parked, unless a directive comes with it that
releases the issue. -/
lemma EventGovernor.process_spares {g : EventGovernor ω} {b : StoreBacked ω}
    (installed : g.IsInstalled b shelf) {id : String} {e? : Option Event} {issueId : String}
    {w : World ω} (hparks : ∀ d, g.followed? e? w = some (issueId, d) → d.kind.parks = true) :
    w.Spares shelf issueId (g.process id e? w).2 := by
  have hmoves {projects : List Value} {shown : List Issue} {w w' : World ω}
      (h : g.Moves b projects shown w w') : w.Spares shelf issueId w' :=
    h.spares installed.sameShelf issueId
  refine process_keeps (S := World.Spares shelf issueId) (.of_imp fun _ _ h => h) ?_ ?_ ?_ ?_
  · intro w v w' hnoted h
    have hspares : w.Spares shelf issueId v :=
      .of_sameWork (.of_leavesSteering (.of_onlySightings hnoted)) (.of_onlySightings hnoted)
    exact trans_of (World.Spares shelf issueId) hspares h
  · intro escalation hescalation other d hfollowed w
    have hshelf := installed.escalation escalation hescalation
    subst hshelf
    have hd (hissue : other = issueId) : d.kind.parks = true := by
      subst hissue
      exact hparks d hfollowed
    exact .of_sameWork (escalation.apply_keepsParked hd w)
      (.of_onlySteers (escalation.apply_keeps other d w))
  · intro e _
    exact (Governor.handle_moves installed.quiet installed.collaborators e.issue).mono
      fun _ _ => hmoves
  · exact (g.bus.ack_keeps id).mono fun _ _ h => .of_sameFacts (.of_onlyBus h)

/-! ## Runs -/

namespace Activity

variable {a : Activity ω shelf}

/-- Whatever happens, a parked issue stays parked until a directive is followed that releases it. -/
lemma keepsParked_after (hparks : ∀ d, a.followed? w = some (issueId, d) → d.kind.parks = true) :
    w.KeepsParked shelf issueId (a.after w) := by
  cases a with
  | scan g b installed => exact (installed.scan_spares issueId w).parked
  | event g b installed id e? =>
    exact (EventGovernor.process_spares installed hparks).parked
  | failure e installed other identifier summary cost =>
    exact installed.recordFailure_keepsParked other identifier summary cost issueId w
  | success e other =>
    exact .of_eq ((e.recordSuccess_keeps other w).parks shelf issueId)
  | directive e installed other d =>
    have hshelf := installed.sameShelf
    subst hshelf
    refine e.apply_keepsParked (fun hissue => ?_) w
    subst hissue
    exact hparks d rfl
  | timeouts e now? => exact .of_eq ((e.processTimeouts_keeps now? w).parks shelf issueId)
  | work op own => exact .of_leavesSteering (op.leavesSteering_after own w)
  | elsewhere f leaves => exact .of_leavesSteering (leaves w)

/-- No scan and no event creates a session for an issue that is parked, unless a directive comes
with the event that releases the issue. -/
lemma sessionsOf_after (hgoverning : a.IsGoverning) (hparked : shelf.parks w issueId = true)
    (hparks : ∀ d, a.followed? w = some (issueId, d) → d.kind.parks = true) :
    (a.after w).store.sessionsOf issueId = w.store.sessionsOf issueId := by
  cases a with
  | scan g b installed => exact (installed.scan_spares issueId w).sessions hparked
  | event g b installed id e? =>
    exact (EventGovernor.process_spares installed hparks).sessions hparked
  | failure => exact hgoverning.elim
  | success => exact hgoverning.elim
  | directive => exact hgoverning.elim
  | timeouts => exact hgoverning.elim
  | work => exact hgoverning.elim
  | elsewhere => exact hgoverning.elim

end Activity

namespace World

/-- An issue that is parked stays parked in every run in which only directives that park are
followed for it. -/
lemma parks_afterAll {as : List (Activity ω shelf)} (hparked : shelf.parks w issueId = true)
    (horders : ∀ d ∈ w.orders issueId as, d.kind.parks = true) :
    shelf.parks (w.afterAll as) issueId = true :=
  afterAll_of_step (I := fun w => shelf.parks w issueId = true)
    (fun _ _ hparks hparked => Activity.keepsParked_after hparks hparked) hparked horders

end World

/-! ## The results -/

namespace Escalation

variable {e : Escalation ω} {d : Directive} {as : List (Activity ω shelf)} {a : Activity ω shelf}

/-- After a hold or a reassignment has been followed to its end, neither a scan nor an event creates
a session for the issue, as long as every directive that is followed for it is a hold or a
reassignment. -/
theorem spared_while_parking (he : e.IsInstalled shelf) (hd : d.kind.parks = true)
    (happly : e.apply issueId d w = (.ok (), w')) (hgoverning : a.IsGoverning)
    (horders : ∀ d' ∈ w'.orders issueId (as ++ [a]), d'.kind.parks = true) :
    (a.after (w'.afterAll as)).store.sessionsOf issueId =
      (w'.afterAll as).store.sessionsOf issueId := by
  have hshelf := he.sameShelf
  subst hshelf
  obtain ⟨hbefore, hlast⟩ := World.forall_orders_append.1 horders
  have hparked : e.shelf.parks w' issueId = true := (e.parks_of_apply happly).trans hd
  exact Activity.sessionsOf_after hgoverning (World.parks_afterAll hparked hbefore)
    (World.forall_orders_cons.1 hlast).1

/-- A directive by which a human reassigns an issue. -/
def reassignment : Directive := { kind := .reassign, timestamp := 0 }

theorem spared_while_parking_reassigned :
    (standard.apply "a" reassignment World.fresh).1 = .ok () ∧
      ((Activity.poll "a").after (World.afterAll (standard.apply "a" reassignment World.fresh).2
        [.poll "a", .directive standard isInstalled_standard "a" (parking 1)])).store.sessionsOf
          "a" =
      (World.afterAll (standard.apply "a" reassignment World.fresh).2
        [.poll "a", .directive standard isInstalled_standard "a" (parking 1)]).store.sessionsOf
          "a" := by
  have happly : (standard.apply "a" reassignment World.fresh).1 = .ok () := rfl
  refine ⟨happly, spared_while_parking isInstalled_standard (d := reassignment) rfl
    (Prod.ext happly rfl) trivial ?_⟩
  decide +kernel

/-- A directive by which a human gives an issue a high priority. -/
def promotion : Directive := { kind := .priority, priority := some .high, timestamp := 1 }

/-- Holds and reassignments do not last until `RESUME`: a priority is put in force in place of
them. -/
theorem not_spared_without_resume :
    ¬ ∀ (e : Escalation Unit) (d : Directive) (w w' : World Unit) (issueId : String)
      (as : List (Activity Unit .shared)) (a : Activity Unit .shared), e.IsInstalled .shared →
      d.kind = .hold ∨ d.kind = .reassign → e.apply issueId d w = (.ok (), w') → a.IsGoverning →
      (∀ d' ∈ w'.orders issueId (as ++ [a]), d'.kind ≠ .resume) →
      (a.after (w'.afterAll as)).store.sessionsOf issueId =
        (w'.afterAll as).store.sessionsOf issueId := by
  intro h
  have happly : (standard.apply "a" reassignment World.fresh).1 = .ok () := rfl
  have hspared := h standard reassignment .fresh _ "a"
    [.directive standard isInstalled_standard "a" promotion] (.poll "a") isInstalled_standard
    (.inr rfl) (Prod.ext happly rfl) trivial (by decide +kernel)
  revert hspared
  decide +kernel

/-- Once a failed cycle has brought the count of an issue to four or more, the issue is held until a
directive is followed for it, and neither a scan nor an event creates a session for it before. -/
theorem parked_until_directive (he : e.IsInstalled shelf) (hthere : shelf.IsThere w)
    {identifier : String} {summary : Option String} {cost : Option Binary64}
    (hw' : (e.recordFailure issueId identifier summary cost w).2 = w')
    (hcounted : (w.store.workflowOf issueId).cycleCount < (w'.store.workflowOf issueId).cycleCount)
    (hfour : 4 ≤ (w'.store.workflowOf issueId).cycleCount)
    (horders : w'.orders issueId as = []) :
    (∀ b : StoreBacked ω, b.shelf = shelf →
        b.isHeld issueId (w'.afterAll as) = (.ok true, w'.afterAll as)) ∧
      ∀ a : Activity ω shelf, a.IsGoverning →
        (∀ d, a.followed? (w'.afterAll as) ≠ some (issueId, d)) →
        (a.after (w'.afterAll as)).store.sessionsOf issueId =
          (w'.afterAll as).store.sessionsOf issueId := by
  have hparked : shelf.parks (w'.afterAll as) issueId = true := by
    refine World.parks_afterAll (he.parks_recordFailure hthere hw' hcounted hfour) fun d hd => ?_
    rw [horders] at hd
    cases hd
  have hthere' : shelf.IsThere (w'.afterAll as) := by
    subst hw'
    refine hthere.of_sameTables (trans_of World.SameTables ?_ (World.sameTables_afterAll _ as))
    exact he.recordFailure_sameTables issueId identifier summary cost w
  constructor
  · intro b hshelf
    exact StoreBacked.isHeld_of_parks hshelf hthere' hparked
  · intro a hgoverning hnone
    exact Activity.sessionsOf_after hgoverning hparked fun d hd => absurd hd (hnone d)

/-- A manager whose comments are refused by the tracker. -/
def unheard : Escalation Unit :=
  { (standard : Escalation Unit) with
    postComment := some fun _ _ => throw (.external "comment refused") }

lemma isInstalled_unheard : unheard.IsInstalled .shared where
  sameShelf := rfl
  postComment post hpost _ _ := by
    have hrefused : (fun _ _ => throw (.external "comment refused")) = post :=
      Option.some.inj hpost
    subst hrefused
    exact .throw _

/-- What may happen while an issue is parked: it is reported again, it passes quality assurance, a
directive is followed for another issue, and touchpoints time out. -/
def meanwhile : List (Activity Unit .shared) := [
  .poll "a",
  .success standard "a",
  .directive standard isInstalled_standard "b" promotion,
  .timeouts standard (some (.ofInt 20000))]

theorem parked_until_directive_unheard :
    (unheard.recordFailure "a" "a" none none (unheard.afterFailures "a" 3 World.fresh)).1.isOk =
        false ∧
      ((unheard.afterFailures "a" 4 World.fresh).store.workflowOf "a").cycleCount = 4 ∧
      (∀ b : StoreBacked Unit, b.shelf = .shared →
        b.isHeld "a" ((unheard.afterFailures "a" 4 World.fresh).afterAll meanwhile) =
          (.ok true, (unheard.afterFailures "a" 4 World.fresh).afterAll meanwhile)) ∧
      (Activity.after (.poll "a") ((unheard.afterFailures "a" 4 World.fresh).afterAll
        meanwhile)).store.sessionsOf "a" =
        ((unheard.afterFailures "a" 4 World.fresh).afterAll meanwhile).store.sessionsOf "a" := by
  have hthere : OverrideShelf.shared.IsThere (unheard.afterFailures "a" 3 World.fresh) :=
    OverrideShelf.isThere_of_missing (by decide +kernel)
  have hfour : ((unheard.afterFailures "a" 4 World.fresh).store.workflowOf "a").cycleCount = 4 := by
    decide +kernel
  have hcounted : ((unheard.afterFailures "a" 3 World.fresh).store.workflowOf "a").cycleCount <
      ((unheard.afterFailures "a" 4 World.fresh).store.workflowOf "a").cycleCount := by
    decide +kernel
  have horders : (unheard.afterFailures "a" 4 World.fresh).orders "a" meanwhile = [] := by
    decide +kernel
  have hrecord : (unheard.recordFailure "a" "a" none none
      (unheard.afterFailures "a" 3 World.fresh)).2 = unheard.afterFailures "a" 4 World.fresh := rfl
  obtain ⟨hheld, hspared⟩ :=
    parked_until_directive isInstalled_unheard hthere hrecord hcounted (Int.le_of_eq hfour.symm)
      horders
  refine ⟨by decide +kernel, hfour, hheld, hspared (.poll "a") trivial fun d => ?_⟩
  rw [Activity.followed?_poll]
  exact nofun

end Escalation

end IssueDispatch
