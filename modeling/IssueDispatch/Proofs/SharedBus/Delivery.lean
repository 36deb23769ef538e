import IssueDispatch.Proofs.Number.Numeral
import IssueDispatch.Proofs.SharedBus.Rows

/-!
# Delivery at least once

What the ends of a stored bus deliver follows from the history of the bus.  Every call keeps the
rows of the store in step with the history (`SharedBus.Tells.serve`), so by induction every run
does, and then the next reader gets what the history says.  That nothing is delivered after it was
acknowledged and that deliveries of one event are apart follows from what the readers got.

Whether a row is hidden is decided by comparing the time of its last delivery with the moment that
lies the visibility timeout before the clock reading.  That moment is rounded like every number, and
an event is eligible if it was last delivered before it.  Rounding never lets an event out too
early, and it holds none back for which the timeout has passed since some number after the time of
its last delivery.  It can hold one back for which the timeout has passed since the last delivery
itself (`SharedBus.pull_none_at_nextTime`).
-/

namespace IssueDispatch

open BusHistory

variable {visibility now : Binary64} {history : List BusRecord} {r : BusRecord} {n : Nat}

/-! ## Histories in order -/

namespace BusHistory

/-- Nothing is delivered after it has been acknowledged, and between two deliveries of an event the
visibility timeout passes. -/
structure IsOrderly (visibility : Binary64) (history : List BusRecord) : Prop where
  final : ∀ later r earlier, history = later ++ r :: earlier →
    ∀ row, r.delivered? = some row → ¬ IsAcked row.1 earlier
  apart : ∀ n, (deliveries n history).Pairwise fun later earlier => earlier < later - visibility

/-- The history stays in order if the next reader gets what it should get. -/
lemma IsOrderly.cons (hvisibility : 0 ≤ visibility) (h : IsOrderly visibility history)
    (hr : ∀ row, r.delivered? = some row → IsNext visibility r.clock history (some row)) :
    IsOrderly visibility (r :: history) where
  final later r' earlier hsplit row hrow := by
    rcases List.cons_eq_append_iff.1 hsplit with ⟨-, hhead⟩ | ⟨later, -, htail⟩
    · obtain ⟨rfl, rfl⟩ := List.cons.inj hhead
      exact (hr row hrow).1.unacked
    · exact h.final later r' earlier htail row hrow
  apart n := by
    cases hrow : r.delivered? with
    | none =>
      rw [deliveries_cons_of_none hrow]
      exact h.apart n
    | some row =>
      rw [deliveries_cons_of_some hrow]
      split
      · rename_i hn
        have hpast := (hr row hrow).1.past
        have hapart := h.apart n
        rw [hn] at hpast
        refine List.pairwise_cons.2 ⟨fun time htime => ?_, hapart⟩
        rcases hdeliveries : deliveries n history with - | ⟨last, before⟩
        · rw [hdeliveries] at htime
          cases htime
        · rw [hdeliveries] at htime hpast hapart
          have hlast := hpast last rfl
          rcases List.mem_cons.1 htime with rfl | htime
          · exact hlast
          · have hbefore := (List.pairwise_cons.1 hapart).1 time htime
            exact Binary64.lt_sub_trans hvisibility hbefore hlast
      · exact h.apart n

end BusHistory

/-! ## Calls -/

namespace SharedBus

variable {b : SharedBus} {port : Nat} {clock : Binary64}

/-- The rows of the bus and its ends are what a history says. -/
structure Tells (history : List BusRecord) (b : SharedBus) : Prop where
  store : b.store.Tells history
  ports : ∀ port, b.isClosed port = isShut port history

/-- Most calls leave all ends as they are. -/
lemma serve_of_perform {call : BusCall} {answer : Except Fault BusAnswer} {s : Store}
    (h : call.perform visibility (b.world port clock) =
      (answer, { b.world port clock with store := s })) :
    b.serve visibility ⟨port, clock, call⟩ = (answer, { b with store := s }) := by
  rw [serve, h]
  simp [world]

lemma serve_publish_of_closed (h : b.isClosed port = true) (e : Event) :
    b.serve visibility ⟨port, clock, .publish e⟩ = (.error .busClosed, b) := by
  have hpublish : (Bus.stored visibility).publish e (b.world port clock) =
      (.error .busClosed, b.world port clock) := by
    rw [Bus.publish, Run.bind_of_ok (Run.get_apply _)]
    simp [world, h, Run.bind_apply]
  exact serve_of_perform (Run.bind_of_error hpublish)

lemma serve_publish_of_open (hopen : b.isClosed port = false) (h : b.store.Has [.events])
    {e : Event} (he : Json.refusal? e.toValue = none) :
    b.serve visibility ⟨port, clock, .publish e⟩ =
      (.ok (.published (toString (b.store.lastEvent + 1))),
        { b with store := b.store.withEvent e clock }) := by
  have hpublish : (Bus.stored visibility).publish e (b.world port clock) =
      (.ok (toString (b.store.lastEvent + 1)),
        { b.world port clock with store := b.store.withEvent e clock }) := by
    rw [Bus.publish, Run.bind_of_ok (Run.get_apply _), world, hopen]
    exact Run.bind_of_ok (World.onStoreNow_of_eq (Store.publishEvent_of_has h he clock))
  exact serve_of_perform (Run.bind_of_ok hpublish)

/-- An event about a project that has no JSON text is refused. -/
lemma serve_publish_of_refusal (hopen : b.isClosed port = false) {e : Event} {detail : String}
    (he : Json.refusal? e.toValue = some detail) :
    b.serve visibility ⟨port, clock, .publish e⟩ = (.error (.wrongKind detail), b) := by
  have hpublish : (Bus.stored visibility).publish e (b.world port clock) =
      (.error (.wrongKind detail), b.world port clock) := by
    rw [Bus.publish, Run.bind_of_ok (Run.get_apply _), world, hopen]
    exact Run.bind_of_error (World.onStoreNow_of_eq
      (Store.publishEvent_of_refusal he clock b.store))
  exact serve_of_perform (Run.bind_of_error hpublish)

lemma serve_pull_of_some (h : b.store.Has [.events]) {x : StoredEvent}
    (hfind : b.store.events.find? (·.isDeliverable visibility clock) = some x) :
    b.serve visibility ⟨port, clock, .pull⟩ =
      (.ok (.pulled (some (x.id, x.payload))),
        { b with store := b.store.withDelivered x.id clock }) :=
  serve_of_perform (Run.bind_of_ok (World.onStoreNow_of_eq (w := b.world port clock)
    (Store.deliverNext_of_some h hfind)))

lemma serve_pull_of_none (h : b.store.Has [.events])
    (hfind : b.store.events.find? (·.isDeliverable visibility clock) = none) :
    b.serve visibility ⟨port, clock, .pull⟩ = (.ok (.pulled none), b) :=
  serve_of_perform (Run.bind_of_ok (World.onStoreNow_of_eq (w := b.world port clock)
    (Store.deliverNext_of_none h hfind)))

lemma serve_ack_of_ok (h : b.store.Has [.events]) {id : String} {n : Int}
    (hid : (Value.str id).toInt = .ok n) (hn : Store.IsStorable n) :
    b.serve visibility ⟨port, clock, .ack id⟩ =
      (.ok .done, { b with store := b.store.withAcked n clock }) := by
  have hack : (Bus.stored visibility).ack id (b.world port clock) =
      (.ok (), { b.world port clock with store := b.store.withAcked n clock }) := by
    rw [Bus.ack, hid]
    exact World.onStoreNow_of_eq (w := b.world port clock) (Store.ackEvent_of_has h hn clock)
  exact serve_of_perform (Run.bind_of_ok hack)

/-- An identifier that is no number, or too large a number, is refused. -/
lemma serve_ack_of_not (visibility : Binary64) (port : Nat) (clock : Binary64) {id : String}
    (h : b.store.Has [.events])
    (hid : ∀ n, (Value.str id).toInt = .ok n → ¬ Store.IsStorable n) :
    ∃ fault, b.serve visibility ⟨port, clock, .ack id⟩ = (.error fault, b) := by
  have hack : ∃ fault, (Bus.stored visibility).ack id (b.world port clock) =
      (.error fault, b.world port clock) := by
    rw [Bus.ack]
    cases hn : (Value.str id).toInt with
    | error fault => exact ⟨fault, rfl⟩
    | ok n =>
      exact ⟨_, World.onStoreNow_of_eq (w := b.world port clock)
        (Store.ackEvent_of_not_isStorable h (hid n hn) clock)⟩
  obtain ⟨fault, hack⟩ := hack
  exact ⟨fault, serve_of_perform (Run.bind_of_error hack)⟩

lemma serve_purge (visibility : Binary64) (port : Nat) (clock : Binary64)
    (h : b.store.Has [.events]) (age : Binary64) :
    ∃ count, ∃ keep : StoredEvent → Bool, (∀ x, x.ackedAt = none → keep x = true) ∧
      b.serve visibility ⟨port, clock, .purge age⟩ = (.ok (.purged count),
        { b with store := { b.store with events := b.store.events.filter keep } }) := by
  refine ⟨_, _, fun x hx => ?_, serve_of_perform (Run.bind_of_ok
    (World.onStoreNow_of_eq (w := b.world port clock) (Store.changing_of_has h _)))⟩
  simp [hx]

lemma serve_close :
    b.serve visibility ⟨port, clock, .close⟩ =
      (.ok .done, { b with isClosed := Function.update b.isClosed port true }) :=
  rfl

lemma serve_reopen :
    b.serve visibility ⟨port, clock, .reopen⟩ =
      (.ok .done, { b with isClosed := Function.update b.isClosed port false }) :=
  rfl

/-! ## Runs -/

/-- What the bus does in a turn is what the longer history says. -/
lemma Tells.serve (h : b.Tells history) (visibility : Binary64) (turn : BusTurn) :
    (b.serve visibility turn).2.Tells (⟨turn, (b.serve visibility turn).1⟩ :: history) := by
  obtain ⟨port, clock, call⟩ := turn
  have htables := h.store.tables
  have hsilent {r : BusRecord} (hstore : IsSilent r)
      (hports : ∀ port, isShut port (r :: history) = isShut port history) :
      b.Tells (r :: history) :=
    ⟨h.store.of_isSilent hstore, fun port => (h.ports port).trans (hports port).symm⟩
  cases call with
  | publish e =>
    cases hport : b.isClosed port with
    | true =>
      rw [serve_publish_of_closed hport]
      exact hsilent ⟨rfl, rfl, rfl⟩ fun _ => rfl
    | false =>
      cases hrefusal : Json.refusal? e.toValue with
      | some detail =>
        rw [serve_publish_of_refusal hport hrefusal]
        exact hsilent ⟨rfl, rfl, rfl⟩ fun _ => rfl
      | none =>
        rw [serve_publish_of_open hport htables hrefusal]
        refine ⟨h.store.of_published clock ?_ rfl rfl, h.ports⟩
        simp [BusRecord.published?, Nat.toList_repr]
  | pull =>
    cases hfind : b.store.events.find? (·.isDeliverable visibility clock) with
    | none =>
      rw [serve_pull_of_none htables hfind]
      exact hsilent ⟨rfl, rfl, rfl⟩ fun _ => rfl
    | some x =>
      rw [serve_pull_of_some htables hfind]
      obtain ⟨e, he, -⟩ := (h.store.rows x (List.mem_of_find?_eq_some hfind)).payload
      exact ⟨h.store.of_delivered (x.id, x.payload) (h.store.bound _ he) rfl rfl rfl,
        h.ports⟩
  | ack id =>
    by_cases hid : ∃ n, (Value.str id).toInt = .ok n ∧ Store.IsStorable n
    · obtain ⟨n, hn, hstorable⟩ := hid
      rw [serve_ack_of_ok htables hn hstorable]
      refine ⟨h.store.of_acked clock rfl rfl ?_, h.ports⟩
      simp [BusRecord.acked?, hn, Except.toOption]
    · obtain ⟨fault, hfault⟩ := serve_ack_of_not visibility port clock htables
        fun n hn hstorable => hid ⟨n, hn, hstorable⟩
      rw [hfault]
      exact hsilent ⟨rfl, rfl, rfl⟩ fun _ => rfl
  | purge age =>
    obtain ⟨count, keep, hkeep, hpurge⟩ := serve_purge visibility port clock htables age
    rw [hpurge]
    refine ⟨?_, h.ports⟩
    exact (h.store.filter fun x _ => hkeep x).of_isSilent ⟨rfl, rfl, rfl⟩
  | close =>
    rw [serve_close]
    refine ⟨h.store.of_isSilent ⟨rfl, rfl, rfl⟩, fun other => ?_⟩
    by_cases hport : port = other
    · subst hport
      simp [isShut]
    · simp [isShut, hport, Ne.symm hport, h.ports other]
  | reopen =>
    rw [serve_reopen]
    refine ⟨h.store.of_isSilent ⟨rfl, rfl, rfl⟩, fun other => ?_⟩
    by_cases hport : port = other
    · subst hport
      simp [isShut]
    · simp [isShut, hport, Ne.symm hport, h.ports other]

/-- The next reader gets what the history says. -/
lemma Tells.exists_next (h : b.Tells history) (visibility : Binary64) (port : Nat)
    (clock : Binary64) :
    ∃ row?, (b.serve visibility ⟨port, clock, .pull⟩).1 = .ok (.pulled row?) ∧
      IsNext visibility clock history row? := by
  cases hfind : b.store.events.find? (·.isDeliverable visibility clock) with
  | none =>
    refine ⟨none, ?_, fun n hn => ?_⟩
    · rw [serve_pull_of_none h.store.tables hfind]
    · obtain ⟨x, hx, -, hdeliverable⟩ := h.store.isEligible_iff.1 hn
      exact List.find?_eq_none.1 hfind x hx hdeliverable
  | some x =>
    have hx := List.mem_of_find?_eq_some hfind
    obtain ⟨hfound, before, after, hevents, hbefore⟩ := List.find?_eq_some_iff_append.1 hfind
    refine ⟨some (x.id, x.payload), ?_, ?_, (h.store.rows x hx).payload, fun m hm => ?_⟩
    · rw [serve_pull_of_some h.store.tables hfind]
    · exact h.store.isEligible_iff.2 ⟨x, hx, rfl, hfound⟩
    · obtain ⟨y, hy, rfl, hdeliverable⟩ := h.store.isEligible_iff.1 hm
      have hids := h.store.ids
      rw [hevents] at hy hids
      rcases List.mem_append.1 hy with hy | hy
      · simpa [hdeliverable] using hbefore y hy
      · rw [List.map_append, List.pairwise_append, List.map_cons, List.pairwise_cons] at hids
        rcases List.mem_cons.1 hy with rfl | hy
        · exact Nat.le_refl _
        · exact Nat.le_of_lt (hids.2.1.1 _ (List.mem_map_of_mem hy))

lemma tells_of_empty {s : Store} (htables : s.Has [.events]) (hnone : s.events = []) :
    ({ store := s } : SharedBus).Tells [] where
  store := {
    tables := htables
    ids := by simp [hnone]
    rows := by simp [hnone]
    numbers := .nil
    bound := fun _ hp => nomatch hp
    unheard := fun _ _ => rfl
    kept := fun _ hpublished => by
      obtain ⟨e, he⟩ := hpublished
      cases he }
  ports _ := rfl

lemma run_cons (visibility : Binary64) (b : SharedBus) (turn : BusTurn) (turns : List BusTurn) :
    b.run visibility (turn :: turns) =
      (⟨turn, ((b.run visibility turns).2.serve visibility turn).1⟩ ::
        (b.run visibility turns).1,
        ((b.run visibility turns).2.serve visibility turn).2) :=
  rfl

/-- A run keeps up what its history says, by induction on the turns. -/
lemma Tells.run (h : b.Tells []) (visibility : Binary64) (turns : List BusTurn) :
    (b.run visibility turns).2.Tells (b.run visibility turns).1 := by
  induction turns with
  | nil => exact h
  | cons turn turns ih =>
    rw [run_cons]
    exact ih.serve visibility turn

lemma Tells.isOrderly_run (h : b.Tells []) (hvisibility : 0 ≤ visibility) (turns : List BusTurn) :
    IsOrderly visibility (b.run visibility turns).1 := by
  induction turns with
  | nil =>
    refine ⟨fun later r earlier hsplit => ?_, fun _ => .nil⟩
    cases later <;> cases hsplit
  | cons turn turns ih =>
    rw [run_cons]
    refine ih.cons hvisibility fun row hrow => ?_
    obtain ⟨port, clock, call⟩ := turn
    cases call with
    | pull =>
      obtain ⟨row?, hanswer, hnext⟩ := (h.run visibility turns).exists_next visibility port clock
      rw [hanswer] at hrow
      obtain rfl : row? = some row := hrow
      exact hnext
    | _ => cases hrow

/-! ## What the ends may rely on -/

/-- In exact arithmetic, the visibility timeout has passed from one time to another. -/
def HasPassed (visibility earlier later : Binary64) : Prop :=
  ∃ u x y, earlier.units? = some u ∧ visibility.units? = some x ∧ later.units? = some y ∧ u + x ≤ y

/-- In exact arithmetic, more than the visibility timeout lies between two times. -/
def IsExactlyPast (visibility earlier later : Binary64) : Prop :=
  ∀ u x y, earlier.units? = some u → visibility.units? = some x → later.units? = some y → u + x < y

/-- What the ends of a bus may rely on, after a history, whichever end is called next and whatever
its clock shows. -/
structure Delivers (visibility : Binary64) (history : List BusRecord) (b : SharedBus) : Prop where
  /-- Numbers grow in the order of publication, whatever has been deleted in the meantime. -/
  increasing : (publications history).Pairwise fun later earlier => earlier.1 < later.1
  /-- An end that is not closed publishes under a number that is larger than all before.  It refuses
  only an event about a project that has no JSON text. -/
  publishes : ∀ port clock e, ∃ n, (∀ p ∈ publications history, p.1 < n) ∧
    (b.serve visibility ⟨port, clock, .publish e⟩).1 =
      if isShut port history then .error .busClosed
      else
        match Json.refusal? e.toValue with
        | some detail => .error (.wrongKind detail)
        | none => .ok (.published (toString n))
  /-- A reader gets the first event that may be delivered, as it was published; it gets nothing only
  if there is none. -/
  pulls : ∀ port clock, ∃ row?, (b.serve visibility ⟨port, clock, .pull⟩).1 = .ok (.pulled row?) ∧
    IsNext visibility clock history row?
  /-- Nothing has been delivered after it was acknowledged. -/
  final : ∀ later r earlier, history = later ++ r :: earlier →
    ∀ row, r.delivered? = some row → ¬ IsAcked row.1 earlier
  /-- Between any two deliveries of an event more than the visibility timeout has passed. -/
  apart : ∀ n, (deliveries n history).Pairwise fun later earlier =>
    earlier < later - visibility ∧ IsExactlyPast visibility earlier later
  /-- An event that has not been acknowledged is still there. -/
  kept : ∀ n e, (n, e) ∈ publications history → ¬ IsAcked n history →
    ∃ x ∈ b.store.events, x.id = n ∧ x.payload = some e.toValue ∧ x.ackedAt = none
  /-- It may be delivered again once the visibility timeout has passed since any time after its last
  delivery. -/
  again : ∀ n now, IsPublished n history → ¬ IsAcked n history →
    (∀ time ∈ (deliveries n history).head?, ∃ after, time < after ∧
      HasPassed visibility after now) →
    IsEligible visibility now n history
  /-- Every event can be acknowledged under the identifier that its publisher got, as long as the
  store can hold the number. -/
  acks : ∀ port clock n, IsPublished n history → Store.IsStorable n →
    (b.serve visibility ⟨port, clock, .ack (toString n)⟩).1 = .ok .done

lemma isExactlyPast_of_lt {earlier later : Binary64} (h : earlier < later - visibility) :
    IsExactlyPast visibility earlier later :=
  fun _ _ _ hu hx hy => Binary64.units_lt_of_lt_sub hu hx hy h

/-- A number has been given to one event only. -/
lemma eq_of_number {p q : Nat × Event}
    (h : (publications history).Pairwise fun later earlier => earlier.1 < later.1)
    (hp : p ∈ publications history) (hq : q ∈ publications history) (hpq : p.1 = q.1) : p = q := by
  have hnodup : ((publications history).map Prod.fst).Nodup :=
    List.pairwise_map.2 (h.imp Nat.ne_of_gt)
  exact List.inj_on_of_nodup_map hnodup hp hq hpq

lemma readInt?_of_isStorable (h : Store.IsStorable n) :
    (Value.str (toString n)).toInt = .ok (n : Int) := by
  have hword : twoPow 63 ≤ tenPow 19 := by decide
  have hsmall : n < tenPow 19 := by
    have hfits := h.2
    omega
  have hlength : (Nat.toDigits 10 n).length ≤ 19 :=
    (Nat.length_toDigits_le_iff (by decide) (by decide)).2 hsmall
  rw [Value.toInt, readInt?_toString (Nat.le_trans hlength (by decide))]

lemma Tells.publishes (h : b.Tells history) (visibility : Binary64) (port : Nat) (clock : Binary64)
    (e : Event) :
    ∃ n, (∀ p ∈ publications history, p.1 < n) ∧
      (b.serve visibility ⟨port, clock, .publish e⟩).1 =
        if isShut port history then .error .busClosed
        else
          match Json.refusal? e.toValue with
          | some detail => .error (.wrongKind detail)
          | none => .ok (.published (toString n)) := by
  refine ⟨b.store.lastEvent + 1, fun p hp => Nat.lt_succ_of_le (h.store.bound p hp), ?_⟩
  rw [← h.ports]
  cases hport : b.isClosed port with
  | true =>
    rw [serve_publish_of_closed hport]
    rfl
  | false =>
    cases hrefusal : Json.refusal? e.toValue with
    | some detail =>
      rw [serve_publish_of_refusal hport hrefusal]
      rfl
    | none =>
      rw [serve_publish_of_open hport h.store.tables hrefusal]
      rfl

lemma Tells.delivers (h : b.Tells history) (horderly : IsOrderly visibility history) :
    b.Delivers visibility history where
  increasing := h.store.numbers
  publishes := h.publishes visibility
  pulls := h.exists_next visibility
  final := horderly.final
  apart n := (horderly.apart n).imp fun hpast => ⟨hpast, isExactlyPast_of_lt hpast⟩
  kept n e he hunacked := by
    obtain ⟨x, hx, rfl⟩ := h.store.kept n ⟨e, he⟩ hunacked
    obtain ⟨e', he', hpayload⟩ := (h.store.rows x hx).payload
    obtain ⟨-, rfl⟩ := Prod.mk.inj (eq_of_number h.store.numbers he' he rfl)
    exact ⟨x, hx, rfl, hpayload, (h.store.rows x hx).ackedAt_eq_none_iff.2 hunacked⟩
  again n now hpublished hunacked htime := by
    refine ⟨hpublished, hunacked, fun time hlast => ?_⟩
    obtain ⟨after, hafter, u, x, y, hu, hx, hy, hpassed⟩ := htime time hlast
    exact Binary64.lt_of_lt_of_le hafter (Binary64.le_sub_of_units_le hu hx hy hpassed)
  acks port clock n _ hn := by
    rw [serve_ack_of_ok h.store.tables (readInt?_of_isStorable hn) hn]

/-- The ends of a stored bus deliver at least once, in every run of calls at any number of ends over
one store whose table of events is empty at the start, at whatever clock readings.  Numbers grow in
the order of publication; every reader gets the first event that is not acknowledged and has not
been delivered within the visibility timeout, as it was published; an acknowledged event is not
delivered again; two deliveries of one event are more than the visibility timeout apart; and an
event that is not acknowledged is kept and comes up again. -/
theorem delivers_run (hvisibility : 0 ≤ visibility) {s : Store} (htables : s.Has [.events])
    (hnone : s.events = []) (turns : List BusTurn) :
    (({ store := s } : SharedBus).run visibility turns).2.Delivers visibility
      (({ store := s } : SharedBus).run visibility turns).1 := by
  have hstart := tells_of_empty htables hnone
  exact (hstart.run visibility turns).delivers (hstart.isOrderly_run hvisibility turns)

/-- Two ends publish and read in turn.  The first event is delivered a second time, both events are
acknowledged and deleted, and an end is closed before the other one publishes a third event.  The
latest turn comes first. -/
def busyTurns : List BusTurn := [
  ⟨1, 101, .pull⟩,
  ⟨1, 100, .publish (.found "c")⟩,
  ⟨0, 99, .publish (.found "c")⟩,
  ⟨0, 98, .close⟩,
  ⟨0, 97, .purge 0⟩,
  ⟨0, 80, .ack "1"⟩,
  ⟨1, 71, .pull⟩,
  ⟨1, 30, .ack "2"⟩,
  ⟨0, 20, .pull⟩,
  ⟨1, 11, .pull⟩,
  ⟨0, 10, .pull⟩,
  ⟨1, 1, .publish (.found "b")⟩,
  ⟨0, 0, .publish (.found "a")⟩]

theorem delivers_run_busyTurns :
    (0 : Binary64) ≤ 60 ∧ ({} : Store).Has [.events] ∧ ({} : Store).events = [] ∧
      (({ store := {} } : SharedBus).run 60 busyTurns).2.Delivers 60
        (({ store := {} } : SharedBus).run 60 busyTurns).1 ∧
      (({ store := {} } : SharedBus).run 60 busyTurns).1.map
          (fun r => (r.published?.map Prod.fst, r.delivered?.map Prod.fst, r.acked?)) =
        [(none, some 3, none), (some 3, none, none), (none, none, none), (none, none, none),
          (none, none, none), (none, none, some 1), (none, some 1, none), (none, none, some 2),
          (none, none, none), (none, some 2, none), (none, some 1, none), (some 2, none, none),
          (some 1, none, none)] := by
  have hvisibility : (0 : Binary64) ≤ 60 := by decide +kernel
  have htables : ({} : Store).Has [.events] := by simp [Store.Has]
  have hnone : ({} : Store).events = [] := rfl
  refine ⟨hvisibility, htables, hnone, delivers_run hvisibility htables hnone busyTurns, ?_⟩
  decide +kernel

/-- A visibility timeout of `2 ^ (-22)` seconds. -/
def shortTimeout : Binary64 := Binary64.divNat 1 4194304

/-- A time at which the neighbouring numbers are `2 ^ (-21)` seconds apart. -/
def coarseTime : Binary64 := 2147483648

/-- The next number, which is two short timeouts later. -/
def nextTime : Binary64 := coarseTime + Binary64.divNat 1 2097152

/-- An event is published and delivered at once. -/
def hastyTurns : List BusTurn := [⟨0, coarseTime, .pull⟩, ⟨0, coarseTime, .publish (.found "a")⟩]

/-- An event need not be delivered again as soon as more than the visibility timeout has passed in
exact arithmetic: the moment that lies the timeout before the clock reading is rounded down to the
time of the last delivery. -/
theorem pull_none_at_nextTime :
    0 ≤ shortTimeout ∧ HasPassed shortTimeout coarseTime nextTime ∧
      IsExactlyPast shortTimeout coarseTime nextTime ∧
      IsPublished 1 (({ store := {} } : SharedBus).run shortTimeout hastyTurns).1 ∧
      ¬ IsAcked 1 (({ store := {} } : SharedBus).run shortTimeout hastyTurns).1 ∧
      deliveries 1 (({ store := {} } : SharedBus).run shortTimeout hastyTurns).1 = [coarseTime] ∧
      ((({ store := {} } : SharedBus).run shortTimeout hastyTurns).2.serve shortTimeout
        ⟨0, nextTime, .pull⟩).1 = .ok (.pulled none) := by
  have hunits : (coarseTime.units?.bind fun u => shortTimeout.units?.bind fun x =>
      nextTime.units?.map fun y => decide (u + x < y)) = some true := by
    decide +kernel
  obtain ⟨u, hu, hunits⟩ := Option.bind_eq_some_iff.1 hunits
  obtain ⟨x, hx, hunits⟩ := Option.bind_eq_some_iff.1 hunits
  obtain ⟨y, hy, hlater⟩ := Option.map_eq_some_iff.1 hunits
  have hlater : u + x < y := of_decide_eq_true hlater
  refine ⟨by decide +kernel, ⟨u, x, y, hu, hx, hy, Int.le_of_lt hlater⟩, ?_, ?_, ?_,
    by decide +kernel, ?_⟩
  · intro u' x' y' hu' hx' hy'
    rw [hu] at hu'
    rw [hx] at hx'
    rw [hy] at hy'
    obtain rfl := Option.some.inj hu'
    obtain rfl := Option.some.inj hx'
    obtain rfl := Option.some.inj hy'
    exact hlater
  · have hpublications : publications (({ store := {} } : SharedBus).run shortTimeout
        hastyTurns).1 = [(1, .found "a")] := rfl
    refine ⟨.found "a", ?_⟩
    rw [hpublications]
    exact List.mem_singleton_self _
  · rintro (⟨hacked, -⟩ | ⟨hacked, -⟩ | hnone)
    · cases hacked
    · cases hacked
    · exact hnone
  · have hmissing : (({ store := {} } : SharedBus).run shortTimeout hastyTurns).2.store.missing =
        [] := by
      decide +kernel
    have htables : (({ store := {} } : SharedBus).run shortTimeout hastyTurns).2.store.Has
        [.events] := by
      rw [Store.Has, hmissing]
      exact fun _ _ => List.not_mem_nil
    have hhidden : ((({ store := {} } : SharedBus).run shortTimeout hastyTurns).2.store.events.find?
        (·.isDeliverable shortTimeout nextTime)).isNone = true := by
      decide +kernel
    rw [serve_pull_of_none htables (Option.isNone_iff_eq_none.1 hhidden)]

end SharedBus

end IssueDispatch
