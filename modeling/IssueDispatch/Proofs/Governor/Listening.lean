import IssueDispatch.Proofs.Governor.Keeping
import IssueDispatch.Proofs.Readership
import IssueDispatch.Proofs.Standard
import Mathlib.Data.List.Nodup

/-!
# A governor that listens

The loop that reads the bus of a process takes an item, looks whether its governor still runs, and
handles the event if it does.  Other things happen between these steps: events are published, the
governor is stopped and started, and all this also while an event is being handled.  A run here is a
list of turns, each of which belongs to one of the parties.

The order of taking and looking is what matters.  The loop of a governor that has been stopped takes
one more item before it finds out, and if that is an event then nobody ever handles it.  So events
are lost exactly where a stopped governor leaves pending events to a loop that goes on
(`Listening.Forsakes`), be it by itself or because the next start waits for it to end.
-/

namespace IssueDispatch

variable {ω : Type}

/-! ## Numbered events -/

/-- The identifier of the event that is published as the `n`-th one. -/
def MemoryBus.eventId (n : Nat) : String := "mem-" ++ toString n

lemma MemoryBus.eventId_injective : Function.Injective eventId := by
  intro n m h
  have hdigits : Nat.toDigits 10 n = Nat.toDigits 10 m := by
    simpa [eventId, Nat.toString_eq_ofList_toDigits] using congrArg String.toList h
  rw [← Nat.ofDigitChars_ten_toDigits (n := n), hdigits, Nat.ofDigitChars_ten_toDigits]

/-! ## What handling an event leaves alone -/

/-- Nothing has come to the bus of the process or been taken from it, and the same governors run. -/
structure World.SameTraffic (w w' : World ω) : Prop where
  bus : w'.bus = { w.bus with acked := w'.bus.acked }
  running : w'.running = w.running

namespace World.SameTraffic

instance : IsPreorder (World ω) World.SameTraffic where
  refl _ := ⟨rfl, rfl⟩
  trans _ _ _ h h' := ⟨by rw [h'.bus, h.bus], h'.running.trans h.running⟩

variable {w w' : World ω}

lemma of_onlySightings (h : w.OnlySightings w') : w.SameTraffic w' := by
  constructor <;> rw [h.frame]

lemma of_onlySteers (h : w.OnlySteers w') : w.SameTraffic w' := by
  constructor <;> rw [h.frame]

lemma of_onlyLapsed (h : w.OnlyLapsed w') : w.SameTraffic w' := by
  constructor <;> rw [h.frame]

lemma pending (h : w.SameTraffic w') : w'.bus.pending = w.bus.pending := by
  rw [h.bus]
  rfl

lemma isMarked (h : w.SameTraffic w') (hw : w.bus.IsMarked) : w'.bus.IsMarked := by
  rw [h.bus]
  exact hw

end World.SameTraffic

namespace EventGovernor

/-- A governor that reads the bus of its process.  What it asks for and tells leaves the bus and the
flags of governors alone: if somebody publishes an event or stops the governor then, this is a turn
of its own. -/
structure IsSelfContained (g : EventGovernor ω) : Prop where
  bus : g.bus = .inProcess
  collaborators : g.collaborators.Keep World.SameTraffic
  onError : ∀ fault, (g.onError fault).Keeps World.SameTraffic

/-- Handles an event that has been taken from the bus.  A fault is told and contained. -/
def handleTaken (g : EventGovernor ω) (id : String) (e : Event) : Run (World ω) Unit := do
  if let .error fault ← Run.attempt (g.process id (some e)) then g.report fault

variable {g : EventGovernor ω}

lemma ack_sameTraffic (hbus : g.bus = .inProcess) (id : String) :
    (g.bus.ack id : Run (World ω) Unit).Keeps World.SameTraffic := by
  intro w
  rw [hbus, Bus.ack, Bus.onMemory_apply, Run.modify_apply]
  refine ⟨?_, rfl⟩
  dsimp only
  unfold MemoryBus.ack
  split <;> rfl

lemma IsSelfContained.process_sameTraffic (hg : g.IsSelfContained) (id : String)
    (e? : Option Event) : (g.process id e?).Keeps World.SameTraffic := by
  intro w
  refine process_keeps (S := World.SameTraffic) (.of_imp fun _ _ h => h) ?_ ?_
    (fun e _ => Governor.handle_keeps hg.collaborators e.issue) (ack_sameTraffic hg.bus id)
  · intro w v w' hnoted h
    exact trans_of World.SameTraffic (.of_onlySightings hnoted) h
  · intro escalation _ issueId d _
    exact (escalation.apply_keeps issueId d).mono fun _ _ => .of_onlySteers

lemma IsSelfContained.handleTaken_sameTraffic (hg : g.IsSelfContained) (id : String) (e : Event) :
    (g.handleTaken id e).Keeps World.SameTraffic := by
  refine (hg.process_sameTraffic id (some e)).attempt.bind fun result => ?_
  split
  · exact Governor.report_keeps hg.onError _
  · exact .pure ()

end EventGovernor

/-! ## Turns -/

namespace Listening

/-- Where the loop that reads the bus stands: between two items, at an event, or at its end. -/
inductive Loop where
  | idle
  | handling (id : String) (e : Event)
  | over

end Listening

/-- A process in which a governor listens, and where the loop of the governor stands. -/
structure Listening (ω : Type) where
  world : World ω
  loop : Listening.Loop := .over

namespace Listening

/-- Who has a turn.  Whatever goes on elsewhere leaves the bus and the flags of governors alone. -/
inductive Turn (ω : Type) where
  | publish (e : Event)
  | goOn
  | stop
  | start
  | elsewhere (f : World ω → World ω)

/-- What happens to events, with their identifiers: they are published, passed on to be handled, or
taken from the bus and dropped. -/
inductive Entry where
  | published (id : String) (e : Event)
  | passed (id : String) (e : Event)
  | dropped (id : String) (e : Event)

namespace Entry

/-- The event that has been published. -/
def published? : Entry → Option (String × Event)
  | published id e => some (id, e)
  | _ => none

/-- The event that has been passed on to be handled. -/
def passed? : Entry → Option (String × Event)
  | passed id e => some (id, e)
  | _ => none

/-- The event that has been dropped. -/
def dropped? : Entry → Option (String × Event)
  | dropped id e => some (id, e)
  | _ => none

/-- The event that has been taken from the bus. -/
def taken? : Entry → Option (String × Event)
  | published _ _ => none
  | passed id e => some (id, e)
  | dropped id e => some (id, e)

/-- What has been taken has been passed on or dropped. -/
lemma taken_perm (history : List Entry) :
    List.Perm (history.filterMap taken?)
      (history.filterMap passed? ++ history.filterMap dropped?) := by
  induction history with
  | nil => exact .nil
  | cons entry history ih =>
    cases entry with
    | published id e => exact ih
    | passed id e => exact ih.cons (id, e)
    | dropped id e => exact (ih.cons (id, e)).trans List.perm_middle.symm

end Entry

variable (g : EventGovernor ω)

/-- The loop takes an item from the bus.  It ends if it meets the end mark, and if it finds that its
governor has been stopped; then it drops the event that it has taken. -/
def take (w : World ω) : List Entry × Listening ω :=
  match w.bus.next with
  | (.event id e, bus) =>
    if g.id ∈ w.running then ([.passed id e], ⟨{ w with bus }, .handling id e⟩)
    else ([.dropped id e], ⟨{ w with bus }, .over⟩)
  | (.waiting, bus) => ([], ⟨{ w with bus }, .idle⟩)
  | (_, bus) => ([], ⟨{ w with bus }, .over⟩)

/-- The loop goes on: it finishes the event at which it stands, or takes the next item. -/
def goOn (s : Listening ω) : List Entry × Listening ω :=
  match s.loop with
  | .idle => take g s.world
  | .handling id e => ([], ⟨(g.handleTaken id e s.world).2, .idle⟩)
  | .over => ([], s)

/-- Waits for the loop of a stopped governor: it goes on until it ends, which takes at most the
event at which it stands and one more item. -/
def join (s : Listening ω) : List Entry × Listening ω :=
  ((s.goOn g).1 ++ ((s.goOn g).2.goOn g).1, ((s.goOn g).2.goOn g).2)

/-- What happens at a turn. -/
def turn (s : Listening ω) : Turn ω → List Entry × Listening ω
  | .publish e =>
    match g.bus.publish e s.world with
    | (.ok id, world) => ([.published id e], { s with world })
    | (.error _, world) => ([], { s with world })
  | .goOn => s.goOn g
  | .stop => ([], { s with world := (g.stop s.world).2 })
  | .start =>
    if g.id ∈ s.world.running then ([], s)
    else ((s.join g).1, ⟨(g.start (s.join g).2.world).2, .idle⟩)
  | .elsewhere f =>
    ([], { s with world := { f s.world with bus := s.world.bus, running := s.world.running } })

/-- What happens at turns that follow one another. -/
def run (s : Listening ω) : List (Turn ω) → List Entry × Listening ω
  | [] => ([], s)
  | t :: ts => ((s.turn g t).1 ++ ((s.turn g t).2.run ts).1, ((s.turn g t).2.run ts).2)

/-- A stopped governor leaves pending events to a loop that goes on to take one. -/
def Forsakes (s : Listening ω) (t : Turn ω) : Prop :=
  g.id ∉ s.world.running ∧ s.world.bus.pending ≠ [] ∧
    match t with
    | .goOn => s.loop = .idle
    | .start => s.loop ≠ .over
    | _ => False

/-- Every event that has been published has been passed on to be handled or still waits. -/
def LosesNothing (history : List Entry) (s : Listening ω) : Prop :=
  ∀ x ∈ history.filterMap Entry.published?,
    x ∈ history.filterMap Entry.passed? ∨ x ∈ s.world.bus.pending

/-! ### What the loop takes -/

variable {g}

/-- A step of the consumer is to take an item and then to handle it, with nothing in between. -/
lemma consume_eq (hbus : g.bus = .inProcess) (w : World ω) :
    g.consume w =
      match (take g w).2 with
      | ⟨v, .idle⟩ => (.ok .waiting, v)
      | ⟨v, .over⟩ => (.ok .ended, v)
      | ⟨v, .handling id e⟩ => (.ok (.handled id), (g.handleTaken id e v).2) := by
  have hnext : Run.attempt g.bus.next w =
      (.ok (.ok w.bus.next.1), { w with bus := w.bus.next.2 }) := by
    rw [hbus]
    rfl
  rw [EventGovernor.consume, Run.bind_of_ok hnext, take, MemoryBus.next]
  rcases w.bus.items with - | ⟨⟨id, e⟩ | -, items⟩
  · rfl
  · dsimp only
    set v : World ω := { w with bus := { w.bus with items } }
    have hasked : g.isRunning v = (.ok (v.running.contains g.id), v) := rfl
    rw [Run.bind_of_ok hasked]
    by_cases hrunning : g.id ∈ w.running
    · rw [if_pos hrunning, if_neg (by simpa using hrunning)]
      dsimp only
      unfold EventGovernor.handleTaken
      rw [Run.bind_of_ok (Run.attempt_apply _ v), Run.bind_of_ok (Run.attempt_apply _ v)]
      rcases (g.process id (some e) v).1 with fault | -
      · rfl
      · rfl
    · rw [if_neg hrunning, if_pos (by simpa using hrunning)]
      rfl
  · rfl

/-- Stopping a governor that runs closes the bus. -/
lemma stop_of_running (hbus : g.bus = .inProcess) {w : World ω} (h : g.id ∈ w.running) :
    (g.stop w).2 = { w with running := w.running.filter (· != g.id), bus := w.bus.close } := by
  have hasked : g.isRunning w = (.ok true, w) := by
    rw [← List.contains_iff_mem.2 h]
    rfl
  rw [EventGovernor.stop, Run.bind_of_ok hasked, hbus]
  rfl

/-- Stopping a governor that does not run changes nothing. -/
lemma stop_of_not_running {w : World ω} (h : g.id ∉ w.running) : (g.stop w).2 = w := by
  have hasked : g.isRunning w = (.ok false, w) := by
    rw [← Bool.eq_false_iff.2 (mt List.contains_iff_mem.1 h)]
    rfl
  rw [EventGovernor.stop, Run.bind_of_ok hasked]
  rfl

/-- Starting a governor that does not run opens the bus. -/
lemma start_of_not_running (hbus : g.bus = .inProcess) {w : World ω} (h : g.id ∉ w.running) :
    (g.start w).2 = { w with running := g.id :: w.running, bus := w.bus.reopen } := by
  have hasked : g.isRunning w = (.ok false, w) := by
    rw [← Bool.eq_false_iff.2 (mt List.contains_iff_mem.1 h)]
    rfl
  rw [EventGovernor.start, Run.bind_of_ok hasked, hbus]
  rfl

lemma published_next (b : MemoryBus) : b.next.2.published = b.published := by
  unfold MemoryBus.next
  split <;> rfl

lemma published_close (b : MemoryBus) : b.close.published = b.published := by
  unfold MemoryBus.close
  split <;> rfl

lemma published_reopen (b : MemoryBus) : b.reopen.published = b.published := by
  unfold MemoryBus.reopen
  split <;> rfl

/-- Events are numbered as they are published. -/
lemma eq_eventId_of_publish {b b' : MemoryBus} {e : Event} {id : String}
    (h : Run.atomically (MemoryBus.publish e) b = (.ok id, b')) :
    id = MemoryBus.eventId (b.published + 1) ∧ b'.published = b.published + 1 := by
  cases hclosed : b.isClosed with
  | true =>
    rw [MemoryBus.publish_of_isClosed hclosed] at h
    exact nomatch (Prod.mk.inj h).1
  | false =>
    have hpublish : MemoryBus.publish e b = .ok (MemoryBus.eventId (b.published + 1),
        { b with
          published := b.published + 1
          items := b.items ++ [.event (MemoryBus.eventId (b.published + 1)) e] }) :=
      if_neg (Bool.eq_false_iff.1 hclosed)
    rw [Run.atomically_ok hpublish] at h
    obtain ⟨hid, rfl⟩ := Prod.mk.inj h
    exact ⟨(Except.ok.inj hid).symm, rfl⟩

/-- What the loop takes from the bus is the first event that waits.  It is passed on to be handled
if the governor runs, and dropped at the end of the loop if not. -/
lemma take_cases (w : World ω) (hw : w.bus.IsMarked) :
    (∃ id e rest bus, w.bus.pending = (id, e) :: rest ∧ bus.pending = rest ∧
        bus.isClosed = w.bus.isClosed ∧ bus.published = w.bus.published ∧ bus.IsMarked ∧
        take g w = if g.id ∈ w.running then ([.passed id e], ⟨{ w with bus }, .handling id e⟩)
          else ([.dropped id e], ⟨{ w with bus }, .over⟩)) ∨
      (w.bus.pending = [] ∧ take g w = ([], ⟨w, if w.bus.isClosed then .over else .idle⟩)) := by
  rcases hw.next_cases with ⟨id, e, rest, bus, hpending, hnext, hrest, hclosed, hmarked⟩ |
    ⟨hpending, hnext⟩
  · have hpublished : bus.published = w.bus.published := by
      rw [← published_next w.bus, hnext]
    exact Or.inl ⟨id, e, rest, bus, hpending, hrest, hclosed, hpublished, hmarked, by
      rw [take, hnext]⟩
  · refine Or.inr ⟨hpending, ?_⟩
    rw [take, hnext]
    cases w.bus.isClosed <;> rfl

/-! ### One turn -/

/-- A bus with its end mark where it belongs, and closed while the loop of a stopped governor goes
on. -/
structure IsSound (g : EventGovernor ω) (s : Listening ω) : Prop where
  isMarked : s.world.bus.IsMarked
  isClosed : g.id ∉ s.world.running → s.loop ≠ .over → s.world.bus.isClosed = true

/-- What has been noted on the way from one state to another: what waited and what was published are
what was taken and what waits now, and events have been numbered as they were published. -/
structure Conserves (s : Listening ω) (entries : List Entry) (s' : Listening ω) : Prop where
  inOrder : s.world.bus.pending ++ entries.filterMap Entry.published? =
    entries.filterMap Entry.taken? ++ s'.world.bus.pending
  numbered : ∃ k, s'.world.bus.published = s.world.bus.published + k ∧
    (entries.filterMap Entry.published?).map Prod.fst =
      (List.range' (s.world.bus.published + 1) k).map MemoryBus.eventId

namespace Conserves

variable {s s' s'' : Listening ω} {entries entries' : List Entry}

/-- Nothing has been noted, and the bus is as it was. -/
lemma of_eq (hpending : s'.world.bus.pending = s.world.bus.pending)
    (hpublished : s'.world.bus.published = s.world.bus.published) : Conserves s [] s' where
  inOrder := by rw [hpending]; exact List.append_nil _
  numbered := ⟨0, hpublished, rfl⟩

lemma append (h : Conserves s entries s') (h' : Conserves s' entries' s'') :
    Conserves s (entries ++ entries') s'' where
  inOrder := by
    rw [List.filterMap_append, List.filterMap_append, ← List.append_assoc, h.inOrder,
      List.append_assoc, h'.inOrder, List.append_assoc]
  numbered := by
    obtain ⟨k, hk, hids⟩ := h.numbered
    obtain ⟨k', hk', hids'⟩ := h'.numbered
    refine ⟨k + k', by omega, ?_⟩
    rw [List.filterMap_append, List.map_append, hids, hids', hk, ← List.map_append,
      Nat.add_right_comm, List.range'_append_1]

end Conserves

/-- A way on which events may have been dropped, from where the bus and the loop fit together to
where they do so again. -/
structure Advances (g : EventGovernor ω) (s : Listening ω) (entries : List Entry)
    (s' : Listening ω) (drops : Prop) : Prop where
  conserves : s.Conserves entries s'
  isSound : s'.IsSound g
  drops_iff : entries.filterMap Entry.dropped? ≠ [] ↔ drops

variable {s s' s'' : Listening ω}

namespace Advances

variable {entries entries' : List Entry} {drops drops' : Prop}

/-- A way on which nothing is noted. -/
lemma of_eq (hs : s'.IsSound g) (hpending : s'.world.bus.pending = s.world.bus.pending)
    (hpublished : s'.world.bus.published = s.world.bus.published) :
    s.Advances g [] s' False :=
  ⟨.of_eq hpending hpublished, hs, by simp⟩

lemma append (h : s.Advances g entries s' drops) (h' : s'.Advances g entries' s'' drops') :
    s.Advances g (entries ++ entries') s'' (drops ∨ drops') where
  conserves := h.conserves.append h'.conserves
  isSound := h'.isSound
  drops_iff := by
    rw [← h.drops_iff, ← h'.drops_iff, List.filterMap_append, Ne, List.append_eq_nil_iff]
    exact not_and_or

lemma congr (h : s.Advances g entries s' drops) (hiff : drops ↔ drops') :
    s.Advances g entries s' drops' :=
  ⟨h.conserves, h.isSound, h.drops_iff.trans hiff⟩

end Advances

/-- Taking an item drops an event exactly if the governor has been stopped and an event waits; the
loop of a stopped governor ends with it. -/
lemma take_advances (hs : s.IsSound g) (hidle : s.loop = .idle) :
    s.Advances g (take g s.world).1 (take g s.world).2
        (g.id ∉ s.world.running ∧ s.world.bus.pending ≠ []) ∧
      (take g s.world).2.world.running = s.world.running ∧
      (g.id ∉ s.world.running → (take g s.world).2.loop = .over) := by
  rcases take_cases (g := g) s.world hs.isMarked with
    ⟨id, e, rest, bus, hpending, hrest, hclosed, hpublished, hmarked, htake⟩ | ⟨hpending, htake⟩
  · rw [htake]
    by_cases hrunning : g.id ∈ s.world.running
    · rw [if_pos hrunning]
      refine ⟨⟨⟨?_, 0, hpublished, rfl⟩, ⟨hmarked, fun h => absurd hrunning h⟩, ?_⟩, rfl,
        fun h => absurd hrunning h⟩
      · simp [hpending, hrest, Entry.published?, Entry.taken?]
      · simp [hrunning, Entry.dropped?]
    · rw [if_neg hrunning]
      refine ⟨⟨⟨?_, 0, hpublished, rfl⟩, ⟨hmarked, fun _ h => absurd rfl h⟩, ?_⟩, rfl,
        fun _ => rfl⟩
      · simp [hpending, hrest, Entry.published?, Entry.taken?]
      · simp [hrunning, hpending, Entry.dropped?]
  · rw [htake]
    have hends (h : g.id ∉ s.world.running) : s.world.bus.isClosed = true :=
      hs.isClosed h (by rw [hidle]; exact nofun)
    have hstays : s.Advances g [] ⟨s.world, if s.world.bus.isClosed then .over else .idle⟩ False :=
      .of_eq ⟨hs.isMarked, fun h _ => hends h⟩ rfl rfl
    refine ⟨hstays.congr ?_, rfl, fun h => if_pos (hends h)⟩
    simp [hpending]

/-- Finishing an event has no effect on what waits. -/
lemma handleTaken_advances (hg : g.IsSelfContained) (hs : s.IsSound g) {id : String} {e : Event}
    (hloop : s.loop = .handling id e) :
    s.Advances g [] ⟨(g.handleTaken id e s.world).2, .idle⟩ False ∧
      (g.handleTaken id e s.world).2.running = s.world.running := by
  have hsame := hg.handleTaken_sameTraffic id e s.world
  refine ⟨.of_eq ⟨hsame.isMarked hs.isMarked, fun hstopped _ => ?_⟩ hsame.pending ?_, hsame.running⟩
  · rw [hsame.bus]
    exact hs.isClosed (hsame.running ▸ hstopped) (by rw [hloop]; exact nofun)
  · rw [hsame.bus]

/-- The loop goes on. -/
lemma goOn_advances (hg : g.IsSelfContained) (hs : s.IsSound g) :
    s.Advances g (s.goOn g).1 (s.goOn g).2 (s.Forsakes g .goOn) := by
  rcases hloop : s.loop with - | ⟨id, e⟩ | -
  · rw [goOn, hloop]
    refine (take_advances hs hloop).1.congr ?_
    simp [Forsakes, hloop]
  · rw [goOn, hloop]
    refine (handleTaken_advances hg hs hloop).1.congr ?_
    simp [Forsakes, hloop]
  · rw [goOn, hloop]
    refine (Advances.of_eq hs rfl rfl).congr ?_
    simp [Forsakes, hloop]

lemma goOn_of_over (hloop : s.loop = .over) : s.goOn g = ([], s) := by
  rw [goOn, hloop]

/-- The loop of a stopped governor ends when it is waited for. -/
lemma join_advances (hg : g.IsSelfContained) (hs : s.IsSound g)
    (hstopped : g.id ∉ s.world.running) :
    s.Advances g (s.join g).1 (s.join g).2 (s.Forsakes g .start) ∧
      (s.join g).2.world.running = s.world.running ∧ (s.join g).2.loop = .over := by
  rw [join]
  rcases hloop : s.loop with - | ⟨id, e⟩ | -
  · obtain ⟨htake, hrunning, hover⟩ := take_advances hs hloop
    have hgoOn : s.goOn g = take g s.world := by rw [goOn, hloop]
    rw [hgoOn, goOn_of_over (hover hstopped), List.append_nil]
    exact ⟨htake.congr (by simp [Forsakes, hloop]), hrunning, hover hstopped⟩
  · obtain ⟨hhandle, hrunning⟩ := handleTaken_advances hg hs hloop
    set s₁ : Listening ω := ⟨(g.handleTaken id e s.world).2, .idle⟩
    have hgoOn : s.goOn g = ([], s₁) := by rw [goOn, hloop]
    have hstopped₁ : g.id ∉ s₁.world.running := hrunning ▸ hstopped
    have hpending : s₁.world.bus.pending = s.world.bus.pending := by
      simpa [Entry.published?, Entry.taken?] using hhandle.conserves.inOrder.symm
    obtain ⟨htake, hrunning', hover⟩ := take_advances hhandle.isSound rfl
    rw [hgoOn]
    refine ⟨(hhandle.append htake).congr ?_, hrunning'.trans hrunning, hover hstopped₁⟩
    simp [Forsakes, hloop, hpending, hstopped, hstopped₁]
  · rw [goOn_of_over hloop, goOn_of_over hloop]
    exact ⟨(Advances.of_eq hs rfl rfl).congr (by simp [Forsakes, hloop]), rfl, hloop⟩

/-- An open bus takes an event under the next number, and a closed one refuses it. -/
lemma publish_advances (hg : g.IsSelfContained) (hs : s.IsSound g) (e : Event) :
    s.Advances g (s.turn g (.publish e)).1 (s.turn g (.publish e)).2 False := by
  rw [turn, hg.bus, Bus.publish, Bus.onMemory_apply]
  cases hclosed : s.world.bus.isClosed with
  | true =>
    rw [MemoryBus.publish_of_isClosed hclosed]
    exact .of_eq ⟨hs.isMarked, hs.isClosed⟩ rfl rfl
  | false =>
    obtain ⟨id, bus, hpublish, hpending, hopen, hmarked⟩ := hs.isMarked.publish_of_open hclosed e
    obtain ⟨hid, hpublished⟩ := eq_eventId_of_publish hpublish
    rw [hpublish]
    refine ⟨⟨?_, 1, hpublished, ?_⟩, ⟨hmarked, fun hstopped hloop => ?_⟩, ?_⟩
    · simp [hpending, Entry.published?, Entry.taken?]
    · simp [hid, Entry.published?]
    · exact absurd (hs.isClosed hstopped hloop) (Bool.eq_false_iff.1 hclosed)
    · simp [Entry.dropped?]

lemma stop_advances (hg : g.IsSelfContained) (hs : s.IsSound g) :
    s.Advances g (s.turn g .stop).1 (s.turn g .stop).2 False := by
  by_cases hrunning : g.id ∈ s.world.running
  · rw [turn, stop_of_running hg.bus hrunning]
    exact .of_eq ⟨hs.isMarked.close, fun _ _ => s.world.bus.isClosed_close⟩
      s.world.bus.pending_close (published_close _)
  · rw [turn, stop_of_not_running hrunning]
    exact .of_eq hs rfl rfl

lemma start_advances (hg : g.IsSelfContained) (hs : s.IsSound g) :
    s.Advances g (s.turn g .start).1 (s.turn g .start).2 (s.Forsakes g .start) := by
  rw [turn]
  by_cases hrunning : g.id ∈ s.world.running
  · rw [if_pos hrunning]
    exact (Advances.of_eq hs rfl rfl).congr (by simp [Forsakes, hrunning])
  · rw [if_neg hrunning]
    obtain ⟨hjoin, hsame, hover⟩ := join_advances hg hs hrunning
    set s₁ := (s.join g).2
    have hstopped : g.id ∉ s₁.world.running := hsame ▸ hrunning
    have hopened : s₁.Advances g [] ⟨(g.start s₁.world).2, .idle⟩ False := by
      rw [start_of_not_running hg.bus hstopped]
      exact .of_eq ⟨hjoin.isSound.isMarked.reopen, fun h => absurd List.mem_cons_self h⟩
        s₁.world.bus.pending_reopen (published_reopen _)
    have hboth := (hjoin.append hopened).congr (iff_of_eq (or_false _))
    rwa [List.append_nil] at hboth

/-- **No turn loses an event, unless the governor forsakes it.** -/
lemma turn_advances (hg : g.IsSelfContained) (hs : s.IsSound g) (t : Turn ω) :
    s.Advances g (s.turn g t).1 (s.turn g t).2 (s.Forsakes g t) := by
  cases t with
  | publish e => exact (publish_advances hg hs e).congr (by simp [Forsakes])
  | goOn => exact goOn_advances hg hs
  | stop => exact (stop_advances hg hs).congr (by simp [Forsakes])
  | start => exact start_advances hg hs
  | elsewhere f =>
    have hkept : s.Advances g (s.turn g (.elsewhere f)).1 (s.turn g (.elsewhere f)).2 False :=
      .of_eq ⟨hs.isMarked, hs.isClosed⟩ rfl rfl
    exact hkept.congr (by simp [Forsakes])

/-! ### Runs -/

/-- Somewhere in a run the governor forsakes events. -/
def ForsakesIn (g : EventGovernor ω) (s : Listening ω) (turns : List (Turn ω)) : Prop :=
  ∃ before t after, turns = before ++ t :: after ∧ (s.run g before).2.Forsakes g t

lemma forsakesIn_cons (t : Turn ω) (ts : List (Turn ω)) :
    s.ForsakesIn g (t :: ts) ↔ s.Forsakes g t ∨ (s.turn g t).2.ForsakesIn g ts := by
  constructor
  · rintro ⟨_ | ⟨t', before⟩, u, after, hturns, hforsakes⟩
    · obtain ⟨rfl, -⟩ := List.cons.inj hturns
      exact Or.inl hforsakes
    · obtain ⟨rfl, rfl⟩ := List.cons.inj hturns
      exact Or.inr ⟨before, u, after, rfl, hforsakes⟩
  · rintro (hforsakes | ⟨before, u, after, rfl, hforsakes⟩)
    · exact ⟨[], t, ts, rfl, hforsakes⟩
    · exact ⟨t :: before, u, after, rfl, hforsakes⟩

/-- A run loses no event, unless the governor forsakes some on the way. -/
lemma run_advances (hg : g.IsSelfContained) (hs : s.IsSound g) (turns : List (Turn ω)) :
    s.Advances g (s.run g turns).1 (s.run g turns).2 (s.ForsakesIn g turns) := by
  induction turns generalizing s with
  | nil => exact (Advances.of_eq hs rfl rfl).congr (by simp [ForsakesIn])
  | cons t ts ih =>
    have hstep := turn_advances hg hs t
    exact (hstep.append (ih hstep.isSound)).congr (forsakesIn_cons t ts).symm

/-- From an empty bus, the events that a run publishes have different identifiers. -/
lemma Conserves.nodup {entries : List Entry} (h : s.Conserves entries s') :
    (entries.filterMap Entry.published?).Nodup := by
  obtain ⟨k, -, hids⟩ := h.numbered
  refine List.Nodup.of_map Prod.fst ?_
  rw [hids]
  exact List.Nodup.map MemoryBus.eventId_injective List.nodup_range'

/-- As events can be told from one another, nothing is lost exactly if nothing has been dropped. -/
lemma losesNothing_iff {entries : List Entry} (h : s.Conserves entries s')
    (hempty : s.world.bus.pending = []) :
    LosesNothing entries s' ↔ entries.filterMap Entry.dropped? = [] := by
  have hperm : List.Perm (entries.filterMap Entry.published?)
      (entries.filterMap Entry.passed? ++ entries.filterMap Entry.dropped? ++
        s'.world.bus.pending) := by
    have horder := h.inOrder
    rw [hempty, List.nil_append] at horder
    rw [horder]
    exact (Entry.taken_perm entries).append_right _
  constructor
  · intro hkept
    by_contra hdropped
    obtain ⟨x, hx⟩ := List.exists_mem_of_ne_nil _ hdropped
    have hnodup := hperm.nodup h.nodup
    rw [List.nodup_append', List.nodup_append'] at hnodup
    obtain ⟨⟨-, -, hpassed⟩, -, hpending⟩ := hnodup
    rcases hkept x (hperm.mem_iff.2 (by simp [hx])) with hmem | hmem
    · exact hpassed hmem hx
    · exact hpending (List.mem_append_right _ hx) hmem
  · intro hnone x hx
    simpa [hnone] using hperm.mem_iff.1 hx

/-- A governor whose loop is over, at an empty bus. -/
lemma isSound_of_empty (g : EventGovernor ω) {w : World ω} (hbus : w.bus = {}) :
    IsSound g { world := w } :=
  ⟨hbus ▸ MemoryBus.isMarked_empty, fun _ hloop => absurd rfl hloop⟩

lemma losesNothing_run_iff (hg : g.IsSelfContained) {w : World ω} (hbus : w.bus = {})
    (turns : List (Turn ω)) :
    LosesNothing (run g { world := w } turns).1 (run g { world := w } turns).2 ↔
      ¬ ForsakesIn g { world := w } turns := by
  have hrun := run_advances hg (isSound_of_empty g hbus) turns
  have hempty : w.bus.pending = [] := by
    rw [hbus]
    rfl
  rw [losesNothing_iff hrun.conserves hempty, ← not_iff_not, not_not]
  exact hrun.drops_iff

/-! ## Which runs lose no event -/

/-- What is known of the events of a run.  They can be told from one another.  Those that have been
published are those that have been taken from the bus, in this order, followed by those that wait.
Each of them has been passed on or still waits if and only if no stopped governor has left pending
events to its loop. -/
structure Accounts (g : EventGovernor ω) (s : Listening ω) (turns : List (Turn ω)) : Prop where
  distinct : ((s.run g turns).1.filterMap Entry.published?).Nodup
  inOrder : (s.run g turns).1.filterMap Entry.published? =
    (s.run g turns).1.filterMap Entry.taken? ++ (s.run g turns).2.world.bus.pending
  losesNothing_iff : LosesNothing (s.run g turns).1 (s.run g turns).2 ↔ ¬ s.ForsakesIn g turns

/-- **A governor that listens loses events exactly where it forsakes them.** -/
theorem run_accounts (hg : g.IsSelfContained) {w : World ω} (hbus : w.bus = {})
    (turns : List (Turn ω)) : Accounts g { world := w } turns where
  distinct := (run_advances hg (isSound_of_empty g hbus) turns).conserves.nodup
  inOrder := by
    have horder := (run_advances hg (isSound_of_empty g hbus) turns).conserves.inOrder
    have hempty : w.bus.pending = [] := by
      rw [hbus]
      rfl
    rwa [hempty, List.nil_append] at horder
  losesNothing_iff := losesNothing_run_iff hg hbus turns

/-- A governor that answers from the store and from a fixed tracker leaves the bus alone. -/
lemma isSelfContained_standard (issues : List Issue) (sessionId : String) :
    (EventGovernor.standard (.fixed issues sessionId) : EventGovernor ω).IsSelfContained where
  bus := rfl
  collaborators := StoreBacked.keep_collaborators (Tracker.isQuiet_fixed issues sessionId)
    (fun _ _ h => .of_onlyLapsed h) fun _ _ _ => ⟨rfl, rfl⟩
  onError _ := .pure ()

/-- A governor is stopped while it handles an event, and its loop goes on to its end. -/
def interruption : List (Turn ω) := [.goOn, .stop, .goOn, .goOn]

/-- If a governor is stopped while it handles an event, then one is lost exactly if another one
waits. -/
lemma forsakesIn_interruption (hg : g.IsSelfContained) (hs : s.IsSound g) (hidle : s.loop = .idle)
    (hrunning : g.id ∈ s.world.running) {x : String × Event} {rest : List (String × Event)}
    (hpending : s.world.bus.pending = x :: rest) :
    s.ForsakesIn g interruption ↔ rest ≠ [] := by
  obtain ⟨id, e, rest', bus, hfirst, hrest, -, -, -, htake⟩ :=
    (take_cases (g := g) s.world hs.isMarked).resolve_right fun h =>
      List.cons_ne_nil x rest (hpending.symm.trans h.1)
  obtain ⟨-, rfl⟩ := List.cons.inj (hpending.symm.trans hfirst)
  -- the states after the event has been taken, after the stop, and after the event is finished
  set s₁ : Listening ω := ⟨{ s.world with bus }, .handling id e⟩
  have htaken : (s.turn g .goOn).2 = s₁ := by
    rw [turn, goOn, hidle]
    dsimp only
    rw [htake, if_pos hrunning]
  set w₂ : World ω :=
    { s.world with running := s.world.running.filter (· != g.id), bus := bus.close }
  have hstopped : (s₁.turn g .stop).2 = ⟨w₂, .handling id e⟩ := by
    have hrunning₁ : g.id ∈ s₁.world.running := hrunning
    rw [turn, stop_of_running hg.bus hrunning₁]
  have hfinished : (turn g ⟨w₂, .handling id e⟩ .goOn).2 = ⟨(g.handleTaken id e w₂).2, .idle⟩ := rfl
  have hsame := hg.handleTaken_sameTraffic id e w₂
  rw [interruption, forsakesIn_cons, htaken, forsakesIn_cons, hstopped, forsakesIn_cons, hfinished,
    forsakesIn_cons]
  have hends : Forsakes g ⟨(g.handleTaken id e w₂).2, .idle⟩ .goOn ↔ rest ≠ [] := by
    simp [Forsakes, hsame.running, hsame.pending, w₂, hrest]
  rw [hends]
  simp [Forsakes, ForsakesIn, hidle, hrunning, s₁]

/-- Nothing is lost if no other event waits when the governor is stopped. -/
theorem run_accounts_interrupted :
    let g : EventGovernor Unit := .standard (.fixed [] "s")
    let s : Listening Unit := { world := .fresh }
    let turns : List (Turn Unit) := .start :: .publish (.found "a") :: interruption
    s.Accounts g turns ∧ LosesNothing (s.run g turns).1 (s.run g turns).2 := by
  intro g s turns
  have hg : g.IsSelfContained := isSelfContained_standard [] "s"
  have haccounts : s.Accounts g turns := run_accounts hg rfl turns
  refine ⟨haccounts, haccounts.losesNothing_iff.2 ?_⟩
  let v : Listening Unit := (s.run g [.start, .publish (.found "a")]).2
  have hv : v.IsSound g := (run_advances hg (isSound_of_empty g rfl) _).isSound
  have hpending : v.world.bus.pending = [(MemoryBus.eventId 1, .found "a")] := rfl
  have hsettled : ¬ v.ForsakesIn g interruption := fun h =>
    (forsakesIn_interruption hg hv rfl List.mem_cons_self hpending).1 h rfl
  rw [forsakesIn_cons, forsakesIn_cons]
  rintro (h | h | h)
  · exact h.2.1 rfl
  · exact h.2.2
  · exact hsettled h

/-- If one does wait, it is lost: the loop takes it before it finds that the governor has been
stopped. -/
theorem not_losesNothing_interrupted :
    let g : EventGovernor Unit := .standard (.fixed [] "s")
    let s : Listening Unit := { world := .fresh }
    let turns : List (Turn Unit) :=
      .start :: .publish (.found "a") :: .publish (.found "b") :: interruption
    ¬ LosesNothing (s.run g turns).1 (s.run g turns).2 := by
  intro g s turns
  have hg : g.IsSelfContained := isSelfContained_standard [] "s"
  let v : Listening Unit := (s.run g [.start, .publish (.found "a"), .publish (.found "b")]).2
  have hv : v.IsSound g := (run_advances hg (isSound_of_empty g rfl) _).isSound
  have hpending : v.world.bus.pending =
      [(MemoryBus.eventId 1, .found "a"), (MemoryBus.eventId 2, .found "b")] := rfl
  have hforsakes : v.ForsakesIn g interruption :=
    (forsakesIn_interruption hg hv rfl List.mem_cons_self hpending).2 (List.cons_ne_nil _ _)
  rw [losesNothing_run_iff hg rfl, not_not, forsakesIn_cons, forsakesIn_cons, forsakesIn_cons]
  exact Or.inr (Or.inr (Or.inr hforsakes))

end Listening

end IssueDispatch
