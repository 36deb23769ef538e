import IssueDispatch.Proofs.Decoding
import IssueDispatch.Proofs.Number.Rounding
import IssueDispatch.Proofs.Standard
import IssueDispatch.Proofs.Store.Transactions
import Mathlib.Data.List.Nodup

/-!
# What a subscriber of the stored bus gets

A subscriber reads the rows that may be delivered, in the order of their numbers.  A row whose
payload is an event is handed over, one whose payload is malformed is acknowledged and passed over,
and one whose payload breaks decoding ends the stream with a fault.

`Bus.Serves` is what a subscriber may rely on: the table of events is there, its rows are numbered
in their order, and a row that has been delivered is hidden at least for the moment.  Reading one
row settles it and leaves the later ones deliverable (`Store.deliverable_settled`), and
`Bus.stream_of_clear` and `Bus.stream_of_breaks` follow by induction on the rows.
-/

namespace IssueDispatch

variable {ω : Type}

/-! ## Rows -/

namespace StoredEvent

/-- The payload of the row breaks decoding. -/
def Breaks (e : StoredEvent) : Prop := ∃ payload, e.payload = some payload ∧ Event.Breaks payload

/-- What a subscriber gets from a row: the event of its payload, if the payload is one. -/
def delivery? (now : Binary64) (e : StoredEvent) : Option Delivery :=
  (Bus.decodePayload now e.payload).toOption.map fun event => Bus.delivery e.id event.1 event.2

/-- The payload of the row is malformed, or it is not even JSON. -/
def isMalformed (now : Binary64) (e : StoredEvent) : Bool :=
  match Bus.decodePayload now e.payload with
  | .ok _ => false
  | .error fault => Bus.isUndecodable fault

/-- A row that has been read: it is delivered, and acknowledged if its payload is malformed. -/
def settle (now : Binary64) (e : StoredEvent) : StoredEvent :=
  { e with
    deliveredAt := some now
    ackedAt := if e.isMalformed now then some now else e.ackedAt }

variable {now : Binary64} {e : StoredEvent}

lemma isMalformed_of_ok {event : EventKind × List (String × Value)}
    (h : Bus.decodePayload now e.payload = .ok event) : e.isMalformed now = false := by
  rw [isMalformed, h]

lemma isMalformed_of_error {fault : Fault} (h : Bus.decodePayload now e.payload = .error fault) :
    e.isMalformed now = Bus.isUndecodable fault := by
  rw [isMalformed, h]

lemma delivery?_of_ok {kind : EventKind} {fields : List (String × Value)}
    (h : Bus.decodePayload now e.payload = .ok (kind, fields)) :
    e.delivery? now = some (Bus.delivery e.id kind fields) := by
  rw [delivery?, h]
  rfl

lemma delivery?_of_error {fault : Fault} (h : Bus.decodePayload now e.payload = .error fault) :
    e.delivery? now = none := by
  rw [delivery?, h]
  rfl

@[simp] lemma settle_id (now : Binary64) (e : StoredEvent) : (e.settle now).id = e.id := rfl

/-- A row holds an event, or it is malformed, or it breaks decoding. -/
lemma decodePayload_cases (e : StoredEvent) (now : Binary64) :
    (¬ e.Breaks ∧ ∃ event, Bus.decodePayload now e.payload = .ok event) ∨
      (¬ e.Breaks ∧ ∃ fault, Bus.decodePayload now e.payload = .error fault ∧
        Bus.isUndecodable fault = true) ∨
      e.Breaks ∧ ∃ fault, Bus.decodePayload now e.payload = .error fault ∧
        Bus.isUndecodable fault = false := by
  rcases hpayload : e.payload with _ | payload
  · have hclear : ¬ e.Breaks := by
      rintro ⟨payload, h, -⟩
      rw [hpayload] at h
      cases h
    exact Or.inr (Or.inl ⟨hclear, .unreadableJson, rfl, rfl⟩)
  · have hiff : e.Breaks ↔ Event.Breaks payload := by simp [Breaks, hpayload]
    rw [hiff]
    by_cases hbreaks : Event.Breaks payload
    · exact Or.inr (Or.inr ⟨hbreaks, Event.exists_fault_of_breaks hbreaks now⟩)
    · rcases Event.isDecoded_of_not_breaks hbreaks now with ⟨event, hok⟩ | ⟨cause, herror⟩
      · exact Or.inl ⟨hbreaks, event, hok⟩
      · exact Or.inr (Or.inl ⟨hbreaks, _, herror, rfl⟩)

lemma Breaks.exists_fault (h : e.Breaks) (now : Binary64) :
    ∃ fault, Bus.decodePayload now e.payload = .error fault ∧
      Bus.isUndecodable fault = false := by
  rcases e.decodePayload_cases now with ⟨hnot, -⟩ | ⟨hnot, -⟩ | ⟨-, hfault⟩
  · exact absurd h hnot
  · exact absurd h hnot
  · exact hfault

end StoredEvent

/-! ## The table of events -/

namespace Store

variable {s : Store} {visibility now : Binary64}

/-- The rows that may be delivered, in the order of their numbers. -/
def deliverable (s : Store) (visibility now : Binary64) : List StoredEvent :=
  s.events.filter (·.isDeliverable visibility now)

/-- The store after the rows of some numbers have been read. -/
def settled (s : Store) (now : Binary64) (ids : List Nat) : Store :=
  { s with events := s.events.map fun e => if e.id ∈ ids then e.settle now else e }

/-- The table of events is there, and its rows are numbered in their order. -/
structure EventsInOrder (s : Store) : Prop where
  tables : s.Has [.events]
  ids : (s.events.map StoredEvent.id).Pairwise (· < ·)
  storable : ∀ e ∈ s.events, IsStorable e.id

lemma EventsInOrder.nodup (h : s.EventsInOrder) : (s.events.map StoredEvent.id).Nodup :=
  h.ids.imp Nat.ne_of_lt

lemma settled_nil (s : Store) (now : Binary64) : s.settled now [] = s := by
  simp [settled]

lemma ids_settled (s : Store) (now : Binary64) (ids : List Nat) :
    (s.settled now ids).events.map StoredEvent.id = s.events.map StoredEvent.id := by
  rw [settled, List.map_map]
  congr 1
  funext e
  dsimp only [Function.comp]
  split <;> rfl

lemma EventsInOrder.settled (h : s.EventsInOrder) (now : Binary64) (ids : List Nat) :
    (s.settled now ids).EventsInOrder where
  tables := h.tables
  ids := by
    rw [ids_settled]
    exact h.ids
  storable := by
    intro e he
    obtain ⟨x, hx, rfl⟩ := List.mem_map.1 he
    split
    · exact h.storable x hx
    · exact h.storable x hx

/-- Rows are read one after the other. -/
lemma settled_cons {id : Nat} {ids : List Nat} (h : id ∉ ids) :
    (s.settled now [id]).settled now ids = s.settled now (id :: ids) := by
  simp only [settled, List.map_map]
  congr 1
  refine List.map_congr_left fun e _ => ?_
  by_cases hid : e.id = id
  · subst hid
    simp [h]
  · simp [hid]

variable {e : StoredEvent} {rest : List StoredEvent}

lemma not_isDeliverable_settle (hnow : ¬ now < now - visibility) (e : StoredEvent) :
    (e.settle now).isDeliverable visibility now = false := by
  simp [StoredEvent.isDeliverable, StoredEvent.settle, hnow]

/-- The numbers of the deliverable rows are numbers of rows, in the same order. -/
lemma EventsInOrder.nodup_deliverable (h : s.EventsInOrder) (visibility now : Binary64) :
    ((s.deliverable visibility now).map StoredEvent.id).Nodup :=
  h.nodup.sublist (List.filter_sublist.map _)

lemma mem_events_of_deliverable (h : s.deliverable visibility now = e :: rest) : e ∈ s.events :=
  (List.mem_filter.1 (h ▸ List.mem_cons_self : e ∈ s.deliverable visibility now)).1

/-- A row is the only one with its number. -/
lemma EventsInOrder.eq_of_id (h : s.EventsInOrder) {x y : StoredEvent} (hx : x ∈ s.events)
    (hy : y ∈ s.events) (hid : x.id = y.id) : x = y :=
  List.inj_on_of_nodup_map h.nodup hx hy hid

/-- Once the first deliverable row has been read, the others are still deliverable. -/
lemma deliverable_settled (h : s.EventsInOrder) (hnow : ¬ now < now - visibility)
    (hrows : s.deliverable visibility now = e :: rest) :
    (s.settled now [e.id]).deliverable visibility now = rest := by
  have he := mem_events_of_deliverable hrows
  have hnodup := h.nodup_deliverable visibility now
  rw [hrows, List.map_cons, List.nodup_cons] at hnodup
  have hkeep : ∀ x ∈ s.events, ((if x.id ∈ [e.id] then x.settle now else x).isDeliverable
      visibility now) = (decide (x.id ≠ e.id) && x.isDeliverable visibility now) := by
    intro x hx
    by_cases hid : x.id = e.id
    · simp [hid, not_isDeliverable_settle hnow]
    · simp [hid]
  have hothers : ∀ x ∈ rest, x.id ≠ e.id := by
    rintro x hx hid
    exact hnodup.1 (hid ▸ List.mem_map_of_mem hx)
  have hfilter : (s.events.filter fun x => (if x.id ∈ [e.id] then x.settle now else x).isDeliverable
      visibility now) = rest := by
    rw [List.filter_congr hkeep, ← List.filter_filter]
    change (s.deliverable visibility now).filter _ = rest
    rw [hrows, List.filter_cons_of_neg (by simp), List.filter_eq_self]
    simpa using hothers
  calc (s.settled now [e.id]).deliverable visibility now
    _ = rest.map fun x => if x.id ∈ [e.id] then x.settle now else x := by
      rw [deliverable, settled, List.filter_map, ← hfilter]
      rfl
    _ = rest := by
      have hsame : ∀ x ∈ rest, (if x.id ∈ [e.id] then x.settle now else x) = x := by
        intro x hx
        simp [hothers x hx]
      rw [List.map_congr_left hsame, List.map_id']

/-- The first deliverable row is delivered. -/
lemma deliverNext_of_cons (h : s.EventsInOrder)
    (hrows : s.deliverable visibility now = e :: rest) :
    deliverNext visibility now s = (.ok (some (e.id, e.payload)), { s with
      events := s.events.map fun x =>
        if x.id = e.id then { x with deliveredAt := some now } else x }) := by
  have hfind : s.events.find? (·.isDeliverable visibility now) = some e := by
    rw [← List.head?_filter]
    exact congrArg List.head? hrows
  rw [deliverNext, changing_of_has h.tables]
  simp [hfind]

lemma deliverNext_of_nil (h : s.EventsInOrder) (hrows : s.deliverable visibility now = []) :
    deliverNext visibility now s = (.ok none, s) := by
  have hfind : s.events.find? (·.isDeliverable visibility now) = none := by
    rw [← List.head?_filter]
    exact congrArg List.head? hrows
  rw [deliverNext, changing_of_has h.tables]
  simp [hfind]

lemma ackEvent_of_has (h : s.Has [.events]) {id : Int} (hid : IsStorable id) (now : Binary64) :
    ackEvent id now s = (.ok (), { s with
      events := s.events.map fun x =>
        if (x.id : Int) = id then { x with ackedAt := some now } else x }) := by
  have htable : Table.events ∉ s.missing := h _ (by simp)
  rw [ackEvent, Run.atomically_ok]
  rw [Transaction.bind_of_ok (requireTable_of_notMem htable),
    Transaction.bind_of_ok (requireInteger_of_isStorable hid), Transaction.modify_apply]

/-- A row that is not malformed has been read once it has been delivered. -/
lemma settled_of_delivered (h : s.EventsInOrder) (he : e ∈ s.events)
    (hgood : e.isMalformed now = false) :
    { s with
      events := s.events.map fun x =>
        if x.id = e.id then { x with deliveredAt := some now } else x } = s.settled now [e.id] := by
  unfold settled
  congr 1
  refine List.map_congr_left fun x hx => ?_
  by_cases hid : x.id = e.id
  · obtain rfl := h.eq_of_id hx he hid
    simp [StoredEvent.settle, hgood]
  · simp [hid]

/-- A malformed row has been read once it has been delivered and acknowledged. -/
lemma settled_of_acked (h : s.EventsInOrder) (he : e ∈ s.events)
    (hbad : e.isMalformed now = true) :
    { s with
      events := (s.events.map fun x =>
        if x.id = e.id then { x with deliveredAt := some now } else x).map fun x =>
          if (x.id : Int) = e.id then { x with ackedAt := some now } else x } =
      s.settled now [e.id] := by
  unfold settled
  rw [List.map_map]
  congr 1
  refine List.map_congr_left fun x hx => ?_
  by_cases hid : x.id = e.id
  · obtain rfl := h.eq_of_id hx he hid
    simp [StoredEvent.settle, hbad]
  · have hint : (x.id : Int) ≠ e.id := by omega
    rw [Function.comp_apply, if_neg hid, if_neg hint, if_neg (by simpa using hid)]

end Store

/-! ## Reading -/

/-- The world after the rows of some numbers have been read. -/
def World.settled (w : World ω) (ids : List Nat) : World ω :=
  { w with store := w.store.settled w.clock ids }

lemma World.settled_nil (w : World ω) : w.settled [] = w := by
  rw [World.settled, Store.settled_nil]

lemma World.settled_cons {w : World ω} {id : Nat} {ids : List Nat} (h : id ∉ ids) :
    (w.settled [id]).settled ids = w.settled (id :: ids) := by
  simp only [World.settled, Store.settled_cons h]

namespace Bus

/-- Goes on with a stream after an attempt to read, unless that has ended it. -/
def goOn (rest : Run (World ω) (List Delivery × Option Fault)) :
    Except Fault Delivery → Run (World ω) (List Delivery × Option Fault)
  | .error fault => return ([], some fault)
  | .ok .waiting | .ok .ended => return ([], none)
  | .ok delivery => do
    let (deliveries, fault?) ← rest
    return (delivery :: deliveries, fault?)

/-- What a subscriber gets in at most a number of attempts to read, up to where it has to wait or
the stream ends, and the fault with which the stream ends, if it ends with one. -/
def stream (b : Bus) : Nat → Run (World ω) (List Delivery × Option Fault)
  | 0 => return ([], none)
  | n + 1 => do goOn (b.stream n) (← Run.attempt b.next)

/-- What a subscriber of the stored bus may rely on. -/
structure Serves (visibility : Binary64) (w : World ω) : Prop where
  events : w.store.EventsInOrder
  isOpen : w.isStoredBusClosed = false
  clock : w.clock.isFinite = true
  visibility : 0 ≤ visibility

variable {visibility now : Binary64} {w : World ω} {e : StoredEvent} {rest : List StoredEvent}

lemma goOn_delivery (stream : Run (World ω) (List Delivery × Option Fault)) (id : Nat)
    (kind : EventKind) (fields : List (String × Value)) :
    goOn stream (.ok (delivery id kind fields)) = do
      let (deliveries, fault?) ← stream
      return (delivery id kind fields :: deliveries, fault?) := by
  unfold delivery
  split <;> rfl

lemma Serves.not_lt (h : Serves visibility w) : ¬ w.clock < w.clock - visibility :=
  Binary64.not_lt_sub_of_nonneg h.clock h.visibility

lemma Serves.settled (h : Serves visibility w) (ids : List Nat) :
    Serves visibility (w.settled ids) where
  events := h.events.settled w.clock ids
  isOpen := h.isOpen
  clock := h.clock
  visibility := h.visibility

/-- Where no row may be delivered a subscriber waits. -/
lemma nextStored_of_nil (h : Serves visibility w)
    (hrows : w.store.deliverable visibility w.clock = []) (fuel : Nat) :
    nextStored (fuel + 1) visibility w = (.ok .waiting, w) := by
  rw [nextStored, Run.bind_of_ok (World.onStoreNow_of_eq (Store.deliverNext_of_nil h.events hrows))]
  rfl

/-- The event of the first deliverable row is handed over. -/
lemma nextStored_of_event (h : Serves visibility w)
    (hrows : w.store.deliverable visibility w.clock = e :: rest) {kind : EventKind}
    {fields : List (String × Value)} (hevent : decodePayload w.clock e.payload = .ok (kind, fields))
    (fuel : Nat) :
    nextStored (fuel + 1) visibility w = (.ok (delivery e.id kind fields), w.settled [e.id]) := by
  have hgood := StoredEvent.isMalformed_of_ok hevent
  have hstore := Store.settled_of_delivered h.events (Store.mem_events_of_deliverable hrows) hgood
  rw [nextStored,
    Run.bind_of_ok (World.onStoreNow_of_eq (Store.deliverNext_of_cons h.events hrows))]
  dsimp only
  rw [Run.bind_of_ok (World.now_apply _), hevent, hstore]
  rfl

/-- A first deliverable row whose payload is malformed is acknowledged and passed over. -/
lemma nextStored_of_malformed (h : Serves visibility w)
    (hrows : w.store.deliverable visibility w.clock = e :: rest) {fault : Fault}
    (hfault : decodePayload w.clock e.payload = .error fault)
    (hmalformed : isUndecodable fault = true) (fuel : Nat) :
    nextStored (fuel + 1) visibility w = nextStored fuel visibility (w.settled [e.id]) := by
  have hbad := (StoredEvent.isMalformed_of_error hfault).trans hmalformed
  have he := Store.mem_events_of_deliverable hrows
  have hstore := Store.settled_of_acked h.events he hbad
  have hack := Store.ackEvent_of_has
    (s := { w.store with
      events := w.store.events.map fun x =>
        if x.id = e.id then { x with deliveredAt := some w.clock } else x })
    h.events.tables (h.events.storable e he) w.clock
  rw [nextStored,
    Run.bind_of_ok (World.onStoreNow_of_eq (Store.deliverNext_of_cons h.events hrows))]
  dsimp only
  rw [Run.bind_of_ok (World.now_apply _), hfault]
  dsimp only
  rw [if_pos hmalformed, Run.bind_of_ok (World.onStoreNow_of_eq hack), hstore]
  rfl

/-- A first deliverable row whose payload breaks decoding ends the stream. -/
lemma nextStored_of_breaks (h : Serves visibility w)
    (hrows : w.store.deliverable visibility w.clock = e :: rest) {fault : Fault}
    (hfault : decodePayload w.clock e.payload = .error fault)
    (hbreaks : isUndecodable fault = false) (fuel : Nat) :
    nextStored (fuel + 1) visibility w = (.error fault, w.settled [e.id]) := by
  have hgood := (StoredEvent.isMalformed_of_error hfault).trans hbreaks
  have hstore := Store.settled_of_delivered h.events (Store.mem_events_of_deliverable hrows) hgood
  rw [nextStored,
    Run.bind_of_ok (World.onStoreNow_of_eq (Store.deliverNext_of_cons h.events hrows))]
  dsimp only
  rw [Run.bind_of_ok (World.now_apply _), hfault]
  dsimp only
  rw [if_neg (by simp [hbreaks]), hstore]
  rfl

/-! ## The stream -/

/-- An attempt to read, and the stream after it. -/
def streamFrom (fuel n : Nat) (visibility : Binary64) :
    Run (World ω) (List Delivery × Option Fault) :=
  Run.attempt (nextStored fuel visibility) >>= goOn ((stored visibility).stream n)

lemma stream_succ (h : Serves visibility w) (n : Nat) :
    (stored visibility).stream (n + 1) w =
      streamFrom (w.store.events.length + 1) n visibility w := by
  have hnext : (stored visibility).next w =
      nextStored (w.store.events.length + 1) visibility w := by
    rw [next, Run.bind_of_ok (Run.get_apply w), if_neg (by simp [h.isOpen])]
  rw [stream, streamFrom, Run.bind_of_ok (Run.attempt_apply _ w),
    Run.bind_of_ok (Run.attempt_apply _ w), hnext]

lemma streamFrom_of_event (h : Serves visibility w)
    (hrows : w.store.deliverable visibility w.clock = e :: rest) {kind : EventKind}
    {fields : List (String × Value)} (hevent : decodePayload w.clock e.payload = .ok (kind, fields))
    (fuel n : Nat) :
    streamFrom (fuel + 1) n visibility w =
      (do
        let (deliveries, fault?) ← (stored visibility).stream n
        return (delivery e.id kind fields :: deliveries, fault?)) (w.settled [e.id]) := by
  rw [streamFrom, Run.bind_of_ok (Run.attempt_apply _ w), nextStored_of_event h hrows hevent,
    goOn_delivery]

lemma streamFrom_of_malformed (h : Serves visibility w)
    (hrows : w.store.deliverable visibility w.clock = e :: rest) {fault : Fault}
    (hfault : decodePayload w.clock e.payload = .error fault)
    (hmalformed : isUndecodable fault = true) (fuel n : Nat) :
    streamFrom (fuel + 1) n visibility w = streamFrom fuel n visibility (w.settled [e.id]) := by
  rw [streamFrom, Run.bind_of_ok (Run.attempt_apply _ w),
    nextStored_of_malformed h hrows hfault hmalformed, streamFrom,
    Run.bind_of_ok (Run.attempt_apply _ (w.settled [e.id]))]

/-- How a stream ends that comes to some deliverable rows. -/
def EndsAt (visibility now : Binary64) (rows : List StoredEvent) (fault? : Option Fault)
    (ids : List Nat) : Prop :=
  ∀ (w : World ω) (fuel n : Nat), Serves visibility w → w.clock = now →
    w.store.deliverable visibility now = rows →
      streamFrom (fuel + 1) n visibility w = (.ok ([], fault?), w.settled ids)

lemma endsAt_nil (visibility now : Binary64) :
    EndsAt (ω := ω) visibility now [] none [] := by
  rintro w fuel n h rfl hrows
  rw [streamFrom, Run.bind_of_ok (Run.attempt_apply _ w), nextStored_of_nil h hrows]
  exact Prod.ext rfl (World.settled_nil w).symm

lemma endsAt_of_breaks {fault : Fault}
    (hfault : decodePayload now e.payload = .error fault) (hbreaks : isUndecodable fault = false) :
    EndsAt (ω := ω) visibility now (e :: rest) (some fault) [e.id] := by
  rintro w fuel n h rfl hrows
  rw [streamFrom, Run.bind_of_ok (Run.attempt_apply _ w),
    nextStored_of_breaks h hrows hfault hbreaks]
  rfl

/-- The events of the deliverable rows before the end are handed over in order.  The induction is on
these rows: reading the first one leaves the others deliverable. -/
lemma streamFrom_of_endsAt {before after : List StoredEvent} {fault? : Option Fault}
    {ids : List Nat} (hend : EndsAt (ω := ω) visibility now after fault? ids)
    (hclear : ∀ e ∈ before, ¬ e.Breaks) (h : Serves visibility w) (hnow : w.clock = now)
    (hrows : w.store.deliverable visibility now = before ++ after) {fuel n : Nat}
    (hfuel : before.length < fuel) (hn : before.length ≤ n) :
    streamFrom fuel n visibility w =
      (.ok (before.filterMap (StoredEvent.delivery? now), fault?),
        (w.settled (before.map StoredEvent.id)).settled ids) := by
  induction before generalizing w fuel n with
  | nil =>
    obtain ⟨fuel, rfl⟩ : ∃ k, fuel = k + 1 := ⟨fuel - 1, by simp at hfuel; omega⟩
    rw [hend w fuel n h hnow hrows, List.map_nil, World.settled_nil]
    rfl
  | cons e before ih =>
    subst hnow
    obtain ⟨hclear_e, hclear⟩ := List.forall_mem_cons.1 hclear
    rw [List.length_cons] at hfuel hn
    obtain ⟨fuel, rfl⟩ : ∃ k, fuel = k + 1 := ⟨fuel - 1, by omega⟩
    rw [List.cons_append] at hrows
    have hserves := h.settled [e.id]
    have hothers := Store.deliverable_settled h.events h.not_lt hrows
    have hnew : e.id ∉ before.map StoredEvent.id := by
      have hnodup := h.events.nodup_deliverable visibility w.clock
      rw [hrows, List.map_cons, List.nodup_cons, List.map_append] at hnodup
      exact fun hmem => hnodup.1 (List.mem_append_left _ hmem)
    have hsettled : (w.settled [e.id]).settled (before.map StoredEvent.id) =
        w.settled ((e :: before).map StoredEvent.id) := World.settled_cons hnew
    rcases e.decodePayload_cases w.clock with
      ⟨-, ⟨kind, fields⟩, hevent⟩ | ⟨-, fault, hfault, hmalformed⟩ | ⟨hbreaks, -⟩
    · obtain ⟨n, rfl⟩ : ∃ k, n = k + 1 := ⟨n - 1, by omega⟩
      have hlength : before.length ≤ (w.settled [e.id]).store.events.length := by
        have hsub : (before ++ after).length ≤ (w.settled [e.id]).store.events.length :=
          hothers ▸ List.length_filter_le _ _
        rw [List.length_append] at hsub
        omega
      have hrest := ih hclear hserves rfl hothers (Nat.lt_succ_of_le hlength)
        (Nat.le_of_succ_le_succ hn)
      rw [streamFrom_of_event h hrows hevent, Run.bind_of_ok ((stream_succ hserves n).trans hrest),
        List.filterMap_cons_some (StoredEvent.delivery?_of_ok hevent), hsettled]
      rfl
    · rw [streamFrom_of_malformed h hrows hfault hmalformed,
        ih hclear hserves rfl hothers (by omega) (by omega),
        List.filterMap_cons_none (StoredEvent.delivery?_of_error hfault), hsettled]
    · exact absurd hbreaks hclear_e

/-- Where no deliverable row breaks decoding, the subscriber gets every event in order, and then it
waits. -/
lemma stream_of_clear (h : Serves visibility w) {n : Nat}
    (hclear : ∀ e ∈ w.store.deliverable visibility w.clock, ¬ e.Breaks)
    (hn : (w.store.deliverable visibility w.clock).length < n) :
    (stored visibility).stream n w =
      (.ok ((w.store.deliverable visibility w.clock).filterMap (StoredEvent.delivery? w.clock),
          none),
        w.settled ((w.store.deliverable visibility w.clock).map StoredEvent.id)) := by
  obtain ⟨n, rfl⟩ : ∃ k, n = k + 1 := ⟨n - 1, by omega⟩
  rw [stream_succ h, streamFrom_of_endsAt (endsAt_nil visibility w.clock) hclear h rfl
    (List.append_nil _).symm (Nat.lt_succ_of_le (List.length_filter_le _ _)) (by omega),
    World.settled_nil]

/-- Where a deliverable row breaks decoding, the stream ends there, after the events before it. -/
lemma stream_of_breaks (h : Serves visibility w) {before after : List StoredEvent} {n : Nat}
    (hrows : w.store.deliverable visibility w.clock = before ++ e :: after)
    (hclear : ∀ e ∈ before, ¬ e.Breaks) (hbreaks : e.Breaks) (hn : before.length < n) :
    ∃ fault, decodePayload w.clock e.payload = .error fault ∧
      (stored visibility).stream n w =
        (.ok (before.filterMap (StoredEvent.delivery? w.clock), some fault),
          (w.settled (before.map StoredEvent.id)).settled [e.id]) := by
  obtain ⟨n, rfl⟩ : ∃ k, n = k + 1 := ⟨n - 1, by omega⟩
  have hlength : before.length < w.store.events.length + 1 := by
    have hsub : (before ++ e :: after).length ≤ w.store.events.length :=
      hrows ▸ List.length_filter_le _ _
    rw [List.length_append] at hsub
    omega
  obtain ⟨fault, hfault, hundecodable⟩ := hbreaks.exists_fault w.clock
  refine ⟨fault, hfault, ?_⟩
  rw [stream_succ h, streamFrom_of_endsAt (endsAt_of_breaks hfault hundecodable) hclear h rfl
    hrows hlength (by omega)]

lemma exists_first_breaks {rows : List StoredEvent} (h : ¬ ∀ e ∈ rows, ¬ e.Breaks) :
    ∃ before e after, rows = before ++ e :: after ∧ (∀ x ∈ before, ¬ x.Breaks) ∧ e.Breaks := by
  induction rows with
  | nil => exact absurd (by simp) h
  | cons x rows ih =>
    by_cases hx : x.Breaks
    · exact ⟨[], x, rows, rfl, by simp, hx⟩
    · have hrest : ¬ ∀ e ∈ rows, ¬ e.Breaks := fun hall =>
        h (List.forall_mem_cons.2 ⟨hx, hall⟩)
      obtain ⟨before, e, after, rfl, hbefore, he⟩ := ih hrest
      exact ⟨x :: before, e, after, rfl, List.forall_mem_cons.2 ⟨hx, hbefore⟩, he⟩

/-- Decoding ends with an event or with a report of a malformed payload exactly if the payload does
not break it.  Accordingly a subscriber gets the event of every deliverable row in order, while the
malformed rows are acknowledged, and then it waits, exactly if no deliverable row breaks decoding.
The first row that does ends the stream with a fault and stays unacknowledged. -/
theorem stream_complete_iff (h : Serves visibility w) {n : Nat}
    (hn : (w.store.deliverable visibility w.clock).length < n) :
    (∀ payload now, Event.IsDecoded (Event.canonicalFields now payload) ↔ ¬ Event.Breaks payload) ∧
      ((stored visibility).stream n w =
          (.ok ((w.store.deliverable visibility w.clock).filterMap (StoredEvent.delivery? w.clock),
              none),
            w.settled ((w.store.deliverable visibility w.clock).map StoredEvent.id)) ↔
        ∀ e ∈ w.store.deliverable visibility w.clock, ¬ e.Breaks) ∧
      ∀ before e after, w.store.deliverable visibility w.clock = before ++ e :: after →
        (∀ x ∈ before, ¬ x.Breaks) → e.Breaks →
          ∃ fault, (stored visibility).stream n w =
            (.ok (before.filterMap (StoredEvent.delivery? w.clock), some fault),
              (w.settled (before.map StoredEvent.id)).settled [e.id]) := by
  have hstop : ∀ before e after, w.store.deliverable visibility w.clock = before ++ e :: after →
      (∀ x ∈ before, ¬ x.Breaks) → e.Breaks →
        ∃ fault, (stored visibility).stream n w =
          (.ok (before.filterMap (StoredEvent.delivery? w.clock), some fault),
            (w.settled (before.map StoredEvent.id)).settled [e.id]) := by
    intro before e after hrows hbefore he
    have hlength : before.length < n := by
      rw [hrows, List.length_append] at hn
      omega
    obtain ⟨fault, -, hstream⟩ := stream_of_breaks h hrows hbefore he hlength
    exact ⟨fault, hstream⟩
  refine ⟨Event.isDecoded_iff,
    ⟨fun hstream => ?_, fun hclear => stream_of_clear h hclear hn⟩, hstop⟩
  refine Classical.byContradiction fun hbreaks => ?_
  obtain ⟨before, e, after, hrows, hbefore, he⟩ := exists_first_breaks hbreaks
  obtain ⟨fault, hfault⟩ := hstop before e after hrows hbefore he
  have hend := (Prod.mk.inj (hstream.symm.trans hfault)).1
  cases (Prod.mk.inj (Except.ok.inj hend)).2

end Bus

/-! ## Rows of all kinds -/

/-- A payload with the fields of an event of a kind about an issue. -/
def Value.payload (tag issue : Value) : Value := .ofFields [
  ("type", tag), ("issue_id", .str "a"), ("issue", issue), ("project", .str "p"),
  ("timestamp", .str "t")]

/-- A world whose stored bus holds some payloads, none of which has been delivered. -/
def World.holding (payloads : List (Option Value)) : World Unit :=
  { World.fresh with store := { ({} : Store) with
      events := payloads.zipIdx.map fun p => { id := p.2 + 1, payload := p.1, publishedAt := 0 }
      lastEvent := payloads.length } }

/-- No JSON, an event, a tag of no kind, and an event whose number is no text. -/
def World.mixed : World Unit := .holding [
  none,
  some (.payload (.str "poll-snapshot") (Issue.inBacklog "a").toValue),
  some (.payload (.str "nonsense") .null),
  some (.ofFields [("type", .str "poll-snapshot"), ("issue_id", .int 5),
    ("issue", (Issue.inBacklog "a").toValue), ("project", .str "p")])]

theorem Bus.stream_complete_mixed :
    Serves 60 World.mixed ∧ (World.mixed.store.deliverable 60 0).length < 5 ∧
      (stored 60).stream 5 World.mixed =
        (.ok ((World.mixed.store.deliverable 60 0).filterMap (StoredEvent.delivery? 0), none),
          World.mixed.settled [1, 2, 3, 4]) := by
  have hserves : Serves 60 World.mixed := by
    refine ⟨⟨?_, by decide, by decide +kernel⟩, rfl, rfl, by decide +kernel⟩
    simp [Store.Has, World.mixed, World.holding]
  have hlength : (World.mixed.store.deliverable 60 0).length < 5 := by decide +kernel
  have hread : ∀ e ∈ World.mixed.store.deliverable 60 0,
      (match decodePayload 0 e.payload with
        | .ok _ => true
        | .error fault => isUndecodable fault) = true := by decide +kernel
  have hclear : ∀ e ∈ World.mixed.store.deliverable 60 0, ¬ e.Breaks := by
    intro e he hbreaks
    obtain ⟨fault, hfault, hundecodable⟩ := hbreaks.exists_fault 0
    have hgood := hread e he
    rw [hfault] at hgood
    exact absurd (hundecodable.symm.trans hgood) (by decide)
  have hids : (World.mixed.store.deliverable 60 0).map StoredEvent.id = [1, 2, 3, 4] := by
    decide +kernel
  obtain ⟨-, hstream, -⟩ := stream_complete_iff hserves hlength
  rw [← hids]
  exact ⟨hserves, hlength, hstream.2 hclear⟩

/-- A world whose stored bus holds a payload with a list for a tag, and an event after it. -/
def World.stuck : World Unit := .holding [
  some (.payload (.list [.str "poll-snapshot"]) (Issue.inBacklog "a").toValue),
  some (.payload (.str "poll-snapshot") (Issue.inBacklog "a").toValue)]

/-- An issue that was created at a time beyond binary64. -/
def Value.lateIssue : Value := .ofFields [
  ("id", .str "a"), ("identifier", .str "A"), ("status", .str "Backlog"),
  ("created_at", .int (tenPow 400))]

/-- Neither does decoding end with an event or a report of a malformed payload whatever the payload,
nor does every stream go on past its malformed rows: the first row ends this one, it is not
acknowledged, and the event after it is never handed over. -/
theorem Bus.not_stream_complete :
    ¬ Event.IsDecoded
        (Event.canonicalFields 0 (.payload (.list [.str "poll-snapshot"]) .null)) ∧
      ¬ Event.IsDecoded
        (Event.canonicalFields 0 (.payload (.str "poll-snapshot") Value.lateIssue)) ∧
      ((stored 60).stream 3 World.stuck).1 =
        .ok ([], some (.wrongKind "unhashable type: 'list'")) ∧
      (((stored 60).stream 3 World.stuck).2.store.events.map fun e =>
        (e.deliveredAt.isSome, e.ackedAt.isSome)) = [(true, false), (false, false)] := by
  refine ⟨?_, ?_, rfl, by decide +kernel⟩
  · rintro (⟨event, h⟩ | ⟨cause, h⟩) <;> cases h
  · have hlarge : Binary64.ofInt (tenPow 400) = .infinity false := by decide +kernel
    rw [Event.isDecoded_iff, not_not]
    have hoverflows : Issue.Overflows Value.lateIssue :=
      ⟨_, _, _, _, rfl, rfl, rfl, rfl, Or.inl rfl, tenPow 400, false, rfl, hlarge⟩
    exact ⟨_, rfl, Or.inr ⟨.pollSnapshot, Value.lateIssue, rfl, rfl, hoverflows⟩⟩

end IssueDispatch
