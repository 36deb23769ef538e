import IssueDispatch.Proofs.Bus
import Mathlib.Logic.Function.Basic

/-!
# Readers of the bus of one process

The bus of a process is one queue for all who read from it.  Every reader has a stream of its own:
it ends when the reader meets an end mark, and a stream that has ended gives nothing more, even from
a bus that has been opened again.  What one reader takes is gone for the others, except for an end
mark, which goes back into the queue.

Calls come one after the other, and a call that reads from an open bus without events finds that it
has to wait.  Everything rests on where end marks can stand: `MemoryBus.IsMarked` says that an open
bus has none and a closed one a single one, behind all events.  Each call keeps this, and then what
has been published is at every moment what has been pulled, followed by what is pending.
-/

namespace IssueDispatch

/-! ## End marks -/

namespace MemoryBus

variable {b b' : MemoryBus}

/-- An open bus has no end mark, and a closed one has a single one, behind its events. -/
def IsMarked (b : MemoryBus) : Prop :=
  b.items = b.pending.map (fun x => .event x.1 x.2) ++ if b.isClosed then [.endMark] else []

lemma isMarked_empty : IsMarked {} := rfl

@[simp] lemma filterMap_event?_map (pending : List (String × Event)) :
    (pending.map fun x => BusItem.event x.1 x.2).filterMap BusItem.event? = pending := by
  rw [List.filterMap_map]
  exact List.filterMap_some

/-- A bus is marked if its items are some events and, in case it is closed, the mark. -/
lemma isMarked_of_items (pending : List (String × Event))
    (h : b.items = pending.map (fun x => .event x.1 x.2) ++
      if b.isClosed then [.endMark] else []) : b.pending = pending ∧ b.IsMarked := by
  have hpending : b.pending = pending := by
    rw [MemoryBus.pending, h, List.filterMap_append, filterMap_event?_map]
    cases b.isClosed <;> simp [BusItem.event?]
  exact ⟨hpending, by rw [IsMarked, hpending, h]⟩

lemma IsMarked.close (h : b.IsMarked) : b.close.IsMarked := by
  unfold MemoryBus.close
  split
  · exact h
  · rename_i hopen
    refine (isMarked_of_items b.pending ?_).2
    rw [h, if_neg hopen]
    simp

/-- Reopening leaves the events and no end mark. -/
lemma IsMarked.items_reopen (h : b.IsMarked) :
    b.reopen.items = b.pending.map fun x => .event x.1 x.2 := by
  unfold MemoryBus.reopen
  split
  · dsimp only
    have hevents (pending : List (String × Event)) :
        (pending.map fun x => BusItem.event x.1 x.2).filter (fun x => x.event?.isSome) =
          pending.map fun x => BusItem.event x.1 x.2 := by
      refine List.filter_eq_self.2 fun item hitem => ?_
      obtain ⟨x, -, rfl⟩ := List.mem_map.1 hitem
      rfl
    rw [h, List.filter_append, hevents]
    cases b.isClosed <;> simp [BusItem.event?]
  · rename_i hopen
    rw [h, if_neg hopen, List.append_nil]

lemma isClosed_reopen (b : MemoryBus) : b.reopen.isClosed = false := by
  unfold MemoryBus.reopen
  split
  · rfl
  · rename_i hopen
    exact Bool.eq_false_iff.2 hopen

lemma isClosed_close (b : MemoryBus) : b.close.isClosed = true := by
  unfold MemoryBus.close
  split
  · assumption
  · rfl

lemma IsMarked.reopen (h : b.IsMarked) : b.reopen.IsMarked := by
  refine (isMarked_of_items b.pending ?_).2
  rw [h.items_reopen, isClosed_reopen]
  simp

/-- A closed bus takes no event. -/
lemma publish_of_isClosed (h : b.isClosed = true) (e : Event) :
    Run.atomically (MemoryBus.publish e) b = (.error .busClosed, b) :=
  Run.atomically_error (if_pos h)

/-- An open bus takes every event, and puts it behind those that wait. -/
lemma IsMarked.publish_of_open (hb : b.IsMarked) (h : b.isClosed = false) (e : Event) :
    ∃ id b', Run.atomically (MemoryBus.publish e) b = (.ok id, b') ∧
      b'.pending = b.pending ++ [(id, e)] ∧ b'.isClosed = false ∧ b'.IsMarked := by
  let id : String := "mem-" ++ toString (b.published + 1)
  let b' : MemoryBus := { b with
    published := b.published + 1
    items := b.items ++ [.event id e] }
  have hpublish : MemoryBus.publish e b = .ok (id, b') := if_neg (Bool.eq_false_iff.1 h)
  have hitems : b'.items = (b.pending ++ [(id, e)]).map (fun x => .event x.1 x.2) ++
      if b'.isClosed then [.endMark] else [] := by
    change b.items ++ [.event id e] = _ ++ if b.isClosed then _ else _
    rw [hb, h]
    simp
  exact ⟨id, b', Run.atomically_ok hpublish, pending_publish hpublish, h,
    (isMarked_of_items _ hitems).2⟩

/-- The next item of a bus is its first event.  Where there is none, a closed bus shows its end and
an open one nothing yet, and neither is changed by it. -/
lemma IsMarked.next_cases (hb : b.IsMarked) :
    (∃ id e rest b', b.pending = (id, e) :: rest ∧ b.next = (.event id e, b') ∧
        b'.pending = rest ∧ b'.isClosed = b.isClosed ∧ b'.IsMarked) ∨
      (b.pending = [] ∧ b.next = (if b.isClosed then .ended else .waiting, b)) := by
  rcases hpending : b.pending with _ | ⟨⟨id, e⟩, rest⟩
  · refine Or.inr ⟨rfl, ?_⟩
    rw [IsMarked, hpending] at hb
    obtain ⟨items, isClosed, published, acked⟩ := b
    dsimp only at hb ⊢
    rw [hb]
    cases isClosed <;> rfl
  · let b' : MemoryBus := { b with
      items := rest.map (fun x => .event x.1 x.2) ++ if b.isClosed then [.endMark] else [] }
    have hnext : b.next = (.event id e, b') := by
      rw [IsMarked, hpending] at hb
      rw [MemoryBus.next, hb]
      rfl
    obtain ⟨hrest, hmarked⟩ := isMarked_of_items (b := b') rest rfl
    exact Or.inl ⟨id, e, rest, b', rfl, hnext, hrest, rfl, hmarked⟩

end MemoryBus

/-! ## Calls -/

/-- A bus with its readers, by number, and whose stream has ended. -/
structure Readership where
  bus : MemoryBus := {}
  hasEnded : Nat → Bool := fun _ => false

namespace Readership

/-- What a bus with readers is asked to do.  To pull is to go on with the stream of a reader. -/
inductive Call where
  | publish (e : Event)
  | pull (reader : Nat)
  | close
  | reopen

/-- What a call gives. -/
inductive Answer where
  | published (id : String) (e : Event)
  | refused (fault : Fault)
  | pulled (d : Delivery)
  | done

/-- Goes on with the stream of a reader. -/
def pull (reader : Nat) (r : Readership) : Delivery × Readership :=
  if r.hasEnded reader then (.ended, r)
  else
    match r.bus.next with
    | (.ended, bus) => (.ended, { bus, hasEnded := Function.update r.hasEnded reader true })
    | (d, bus) => (d, { r with bus })

/-- Answers a call. -/
def serve (r : Readership) : Call → Answer × Readership
  | .publish e =>
    match Run.atomically (MemoryBus.publish e) r.bus with
    | (.ok id, bus) => (.published id e, { r with bus })
    | (.error fault, bus) => (.refused fault, { r with bus })
  | .pull reader => (.pulled (r.pull reader).1, (r.pull reader).2)
  | .close => (.done, { r with bus := r.bus.close })
  | .reopen => (.done, { r with bus := r.bus.reopen })

/-- Answers calls one after the other. -/
def run (r : Readership) : List Call → List Answer × Readership
  | [] => ([], r)
  | call :: calls =>
    ((r.serve call).1 :: ((r.serve call).2.run calls).1, ((r.serve call).2.run calls).2)

/-- The event that has been published, with its identifier. -/
def Answer.published? : Answer → Option (String × Event)
  | published id e => some (id, e)
  | _ => none

/-- The event that a reader has got, with its identifier. -/
def Answer.pulled? : Answer → Option (String × Event)
  | pulled (.event id e) => some (id, e)
  | _ => none

/-- The answers to a number of readers of a closed bus: what is pending, and after that the end. -/
def lastAnswers (pending : List (String × Event)) (n : Nat) : List Answer :=
  List.take n (pending.map (fun x => .pulled (.event x.1 x.2)) ++ List.replicate n (.pulled .ended))

/-- The bus is closed after a call, if it was closed as given before. -/
def Call.shuts (isClosed : Bool) : Call → Bool
  | close => true
  | reopen => false
  | publish _ | pull _ => isClosed

lemma lastAnswers_nil (n : Nat) : lastAnswers [] n = List.replicate n (.pulled .ended) := by
  rw [lastAnswers, List.map_nil, List.nil_append, List.take_replicate, Nat.min_self]

lemma lastAnswers_cons (id : String) (e : Event) (pending : List (String × Event)) (n : Nat) :
    lastAnswers ((id, e) :: pending) (n + 1) = .pulled (.event id e) :: lastAnswers pending n := by
  unfold lastAnswers
  rw [List.map_cons, List.cons_append, List.take_succ_cons, List.take_append, List.take_append,
    List.take_replicate, List.take_replicate]
  congr 3
  omega

/-! ### One call -/

variable {r : Readership}

/-- A reader whose stream has not ended gets the next item of the bus. -/
lemma pull_cases (hr : r.bus.IsMarked) {reader : Nat} (hreader : r.hasEnded reader = false) :
    (∃ id e rest bus, r.bus.pending = (id, e) :: rest ∧
        r.pull reader = (.event id e, { r with bus }) ∧
        bus.pending = rest ∧ bus.isClosed = r.bus.isClosed ∧ bus.IsMarked) ∨
      (r.bus.pending = [] ∧ r.bus.isClosed = true ∧ r.pull reader =
        (.ended, { r with hasEnded := Function.update r.hasEnded reader true })) ∨
      (r.bus.pending = [] ∧ r.bus.isClosed = false ∧ r.pull reader = (.waiting, r)) := by
  rw [pull, if_neg (Bool.eq_false_iff.1 hreader)]
  rcases hr.next_cases with ⟨id, e, rest, bus, hpending, hnext, hbus⟩ | ⟨hpending, hnext⟩
  · refine Or.inl ⟨id, e, rest, bus, hpending, ?_, hbus⟩
    rw [hnext]
  · cases hclosed : r.bus.isClosed with
    | true =>
      refine Or.inr (Or.inl ⟨hpending, rfl, ?_⟩)
      rw [hnext, hclosed]
      rfl
    | false =>
      refine Or.inr (Or.inr ⟨hpending, rfl, ?_⟩)
      rw [hnext, hclosed]
      rfl

/-- What a call leaves: end marks where they belong, a bus that is closed or open as the call says,
and no event lost or doubled. -/
structure Serves (r : Readership) (call : Call) (answer : Answer) (r' : Readership) : Prop where
  isMarked : r'.bus.IsMarked
  isClosed : r'.bus.isClosed = call.shuts r.bus.isClosed
  conserves : r.bus.pending ++ answer.published?.toList = answer.pulled?.toList ++ r'.bus.pending

lemma serve_pull (hr : r.bus.IsMarked) (reader : Nat) :
    r.Serves (.pull reader) (.pulled (r.pull reader).1) (r.pull reader).2 := by
  cases hreader : r.hasEnded reader with
  | true =>
    rw [pull, if_pos hreader]
    exact ⟨hr, rfl, by simp [Answer.published?, Answer.pulled?]⟩
  | false =>
    rcases pull_cases hr hreader with ⟨id, e, rest, bus, hpending, hpull, hrest, hclosed, hbus⟩ |
      ⟨-, -, hpull⟩ | ⟨-, -, hpull⟩
    · rw [hpull]
      exact ⟨hbus, hclosed, by simp [Answer.published?, Answer.pulled?, hpending, hrest]⟩
    · rw [hpull]
      exact ⟨hr, rfl, by simp [Answer.published?, Answer.pulled?]⟩
    · rw [hpull]
      exact ⟨hr, rfl, by simp [Answer.published?, Answer.pulled?]⟩

lemma serve_serves (hr : r.bus.IsMarked) (call : Call) :
    r.Serves call (r.serve call).1 (r.serve call).2 := by
  cases call with
  | publish e =>
    cases hclosed : r.bus.isClosed with
    | true =>
      rw [serve, MemoryBus.publish_of_isClosed hclosed]
      exact ⟨hr, rfl, by simp [Answer.published?, Answer.pulled?]⟩
    | false =>
      obtain ⟨id, bus, hpublish, hpending, hopen, hbus⟩ := hr.publish_of_open hclosed e
      rw [serve, hpublish]
      exact ⟨hbus, hopen.trans hclosed.symm,
        by simp [Answer.published?, Answer.pulled?, hpending]⟩
  | pull reader => exact serve_pull hr reader
  | close =>
    exact ⟨hr.close, r.bus.isClosed_close, by simp [serve, Answer.published?, Answer.pulled?]⟩
  | reopen =>
    exact ⟨hr.reopen, r.bus.isClosed_reopen, by simp [serve, Answer.published?, Answer.pulled?]⟩

/-! ### Runs -/

/-- Over any run no event is lost or doubled. -/
lemma run_conserves (hr : r.bus.IsMarked) (calls : List Call) :
    r.bus.pending ++ (r.run calls).1.filterMap Answer.published? =
        (r.run calls).1.filterMap Answer.pulled? ++ (r.run calls).2.bus.pending ∧
      (r.run calls).2.bus.isClosed = calls.foldl Call.shuts r.bus.isClosed ∧
      (r.run calls).2.bus.IsMarked := by
  induction calls generalizing r with
  | nil => exact ⟨by simp [run], rfl, hr⟩
  | cons call calls ih =>
    have hstep := serve_serves hr call
    obtain ⟨hrest, hclosed, hmarked⟩ := ih hstep.isMarked
    refine ⟨?_, ?_, hmarked⟩
    · have hsplit (f : Answer → Option (String × Event)) (a : Answer) (as : List Answer) :
          (a :: as).filterMap f = (f a).toList ++ as.filterMap f := by
        cases h : f a <;> simp [h]
      rw [run, hsplit, hsplit, ← List.append_assoc, hstep.conserves, List.append_assoc, hrest,
        List.append_assoc]
    · rw [run, hclosed, hstep.isClosed, List.foldl_cons]

/-- A closed bus without events shows its end to everybody, again and again. -/
lemma run_pull_of_nil (hr : r.bus.IsMarked) (hclosed : r.bus.isClosed = true)
    (hpending : r.bus.pending = []) (readers : List Nat) :
    (r.run (readers.map .pull)).1 = List.replicate readers.length (.pulled .ended) := by
  induction readers generalizing r with
  | nil => rfl
  | cons reader readers ih =>
    have hend : ∃ hasEnded, r.pull reader = (.ended, { r with hasEnded }) := by
      cases hreader : r.hasEnded reader with
      | true => exact ⟨r.hasEnded, by rw [pull, if_pos hreader]⟩
      | false =>
        rcases pull_cases hr hreader with ⟨id, e, rest, bus, hsome, -⟩ | ⟨-, -, hpull⟩ |
          ⟨-, hopen, -⟩
        · cases hpending.symm.trans hsome
        · exact ⟨_, hpull⟩
        · cases hclosed.symm.trans hopen
    obtain ⟨hasEnded, hpull⟩ := hend
    rw [List.map_cons, run, serve, hpull, ih (r := { r with hasEnded }) hr hclosed hpending]
    rfl

/-- Readers whose streams have not ended get the events of a closed bus, and then its end. -/
lemma run_pull_of_isClosed (hr : r.bus.IsMarked) (hclosed : r.bus.isClosed = true)
    (readers : List Nat) (hreaders : ∀ reader ∈ readers, r.hasEnded reader = false) :
    (r.run (readers.map .pull)).1 = lastAnswers r.bus.pending readers.length := by
  induction readers generalizing r with
  | nil => rfl
  | cons reader readers ih =>
    obtain ⟨hreader, hothers⟩ := List.forall_mem_cons.1 hreaders
    rcases pull_cases hr hreader with ⟨id, e, rest, bus, hpending, hpull, hrest, hbus, hmarked⟩ |
      ⟨hpending, -, -⟩ | ⟨-, hopen, -⟩
    · have htail := ih (r := { r with bus }) hmarked (hbus.trans hclosed) hothers
      dsimp only at htail
      rw [List.map_cons, run, serve, hpull, htail, hpending, hrest]
      exact (lastAnswers_cons id e rest readers.length).symm
    · rw [run_pull_of_nil hr hclosed hpending, hpending, lastAnswers_nil]
    · cases hclosed.symm.trans hopen

/-! ## Every event once, in order -/

/-- What a bus with readers has given after a run of calls, and what it will give.  The events that
have been published are those that have been pulled, followed by those that are pending, and these
are counted.  The bus is closed if it has been closed since it was last opened; exactly then it
refuses events, and it is not changed by that.  From a closed bus readers get what is pending and
then the end, as often as they ask for more.  A bus that is opened again has no end mark left. -/
structure Conveys (calls : List Call) (history : List Answer) (r : Readership) : Prop where
  inOrder : history.filterMap Answer.published? =
    history.filterMap Answer.pulled? ++ r.bus.pending
  counts : ∀ (ω : Type) (w : World ω), w.bus = r.bus →
    Bus.inProcess.pendingCount w = (.ok r.bus.pending.length, w)
  isClosed : r.bus.isClosed = calls.foldl Call.shuts false
  refuses_iff : ∀ e, r.serve (.publish e) = (.refused .busClosed, r) ↔ r.bus.isClosed = true
  accepts : r.bus.isClosed = false → ∀ e, ∃ id, (r.serve (.publish e)).1 = .published id e
  drains : r.bus.isClosed = true → ∀ readers : List Nat,
    (∀ reader ∈ readers, r.hasEnded reader = false) →
      (r.run (readers.map .pull)).1 = lastAnswers r.bus.pending readers.length
  unmarked : .endMark ∉ (r.serve .reopen).2.bus.items

/-- **The bus of a process conveys every event once and in order, across closing and opening.** -/
theorem conveys_run (calls : List Call) :
    Conveys calls (run {} calls).1 (run {} calls).2 := by
  obtain ⟨hconserved, hclosed, hmarked⟩ :=
    run_conserves (r := {}) MemoryBus.isMarked_empty calls
  generalize (run {} calls).1 = history at *
  generalize (run {} calls).2 = r at *
  have haccepts (hopen : r.bus.isClosed = false) (e : Event) :
      ∃ id, (r.serve (.publish e)).1 = .published id e := by
    obtain ⟨id, bus, hpublish, -⟩ := hmarked.publish_of_open hopen e
    exact ⟨id, by rw [serve, hpublish]⟩
  refine ⟨hconserved, ?_, hclosed, fun e => ⟨fun h => ?_, fun h => ?_⟩, haccepts, ?_, ?_⟩
  · intro ω w hw
    rw [← hw]
    rfl
  · by_contra hopen
    obtain ⟨id, hpublished⟩ := haccepts (Bool.eq_false_iff.2 hopen) e
    rw [h] at hpublished
    cases hpublished
  · rw [serve, MemoryBus.publish_of_isClosed h]
  · exact fun h readers hreaders => run_pull_of_isClosed hmarked h readers hreaders
  · change .endMark ∉ r.bus.reopen.items
    rw [hmarked.items_reopen]
    simp

/-- A stream that has ended stays at its end, and what is published later is for other readers. -/
example (e e' : Event) :
    (run {} [.publish e, .close, .pull 0, .pull 0, .reopen, .publish e', .pull 0, .pull 1]).1 =
      [.published "mem-1" e, .done, .pulled (.event "mem-1" e), .pulled .ended, .done,
        .published "mem-2" e', .pulled .ended, .pulled (.event "mem-2" e')] := by
  cbv

end Readership

end IssueDispatch
