import IssueDispatch.Proofs.Queue.Foresight
import IssueDispatch.Proofs.Queue.Frame
import IssueDispatch.Proofs.Queue.WellFormed
import IssueDispatch.Proofs.Standard

/-!
# Polls hand out the free capacity

A poll reads the registration of a worker, claims one piece of work after the other, and writes the
number of them back into the registration.  Nothing is claimed beyond the free slots, and nothing is
left that could have been claimed: the poll hands out what a peek of that length shows
(`Store.PollsExactly`).

If nobody but polls writes to a registration, its count of running sessions is the number of pieces
of work that the worker has been handed.  `World.polls_fill_capacity` says so for whatever else
happens to the queue in between: what others do leaves the registration alone, and each poll of the
worker moves count and number alike.
-/

namespace IssueDispatch

/-! ## The registration of a worker -/

namespace Store

/-- The registration of a worker. -/
def findWorker (s : Store) (id : String) : Option Worker := s.workers.find? fun v => v.id == id

/-- The table of workers is there, and the whole numbers of a worker fit into its columns. -/
structure HoldsWorker (s : Store) (id : String) : Prop where
  table : s.Has [.workers]
  storable : ∀ v ∈ s.findWorker id, IsStorable v.capacity ∧ IsStorable v.activeCount

/-- A worker has been handed some work, and nothing else has happened: each session is marked as
claimed by it, and the work is added to what its registration counts. -/
structure Serves (s : Store) (worker : Worker) (now : Binary64) (ws : List Work) (s' : Store) :
    Prop where
  fits : (ws.length : Int) ≤ max 0 (worker.capacity - worker.activeCount)
  handsOut : s.OnlyHandsOut (ws.map Work.sessionId) { s' with workers := s.workers }
  claims : ∀ w ∈ ws, (s'.claims.filter fun c => c.sessionId = w.sessionId) =
    [⟨w.sessionId, worker.id, now⟩]
  sessions : ∀ w ∈ ws, (s'.sessions.filter fun x => x.sessionId = w.sessionId) =
    (s.sessions.filter fun x => x.sessionId = w.sessionId).map (·.claimBy worker.id now)
  counted : ws ≠ [] → s'.findWorker worker.id =
    some { worker with activeCount := worker.activeCount + ws.length, lastHeartbeat := now }
  others : ∀ id, id ≠ worker.id → s'.findWorker id = s.findWorker id
  nothing : ws = [] → s' = s

/-- A poll hands out to an active worker what a peek at its free slots shows, five at most, and
nothing to anyone else. -/
structure PollsExactly (s : Store) (id : String) (now : Binary64) : Prop where
  serves : ∀ worker, s.findWorker id = some worker → worker.status = Worker.activeStatus →
    ∃ ws s', peek (min (max 0 (worker.capacity - worker.activeCount)) 5) worker.projects s =
        (.ok ws, s) ∧
      poll id now s = (.ok ws, s') ∧ s.Serves worker now ws s'
  refuses : (∀ worker, s.findWorker id = some worker → worker.status ≠ Worker.activeStatus) →
    poll id now s = (.ok [], s)

variable {s s' : Store} {id : String} {now : Binary64}

lemma findWorker_id {v : Worker} (h : s.findWorker id = some v) : v.id = id := by
  simpa using List.find?_some h

lemma getWorker_of_has (h : s.Has [.workers]) (id : String) :
    getWorker id s = (.ok (s.findWorker id), s) := reading_of_has h _

/-- The registrations after a heartbeat. -/
def beaten (s : Store) (id : String) (activeCount : Int) (now : Binary64) : List Worker :=
  s.workers.map fun v => if v.id == id then { v with lastHeartbeat := now, activeCount } else v

lemma heartbeat_of_has (h : s.Has [.workers]) {n : Int} (hn : IsStorable n) (id : String)
    (now : Binary64) :
    heartbeat id n none now s =
      (.ok (s.workers.any fun v => v.id == id), { s with workers := s.beaten id n now }) := by
  rw [heartbeat, Run.atomically_ok]
  rw [Transaction.bind_of_ok (requireTable_of_notMem (h _ (by simp))),
    Transaction.bind_of_ok (requireInteger_of_isStorable hn), Transaction.modifyGet_apply]
  rfl

/-- A heartbeat moves the registration of its worker and no other. -/
lemma find?_beaten (s : Store) (id : String) (n : Int) (now : Binary64) (other : String) :
    ((s.beaten id n now).find? fun v => v.id == other) =
      if id = other then
        (s.findWorker id).map fun v => { v with lastHeartbeat := now, activeCount := n }
      else s.findWorker other := by
  have hkey : ((fun v : Worker => v.id == other) ∘ fun v =>
      if v.id == id then { v with lastHeartbeat := now, activeCount := n } else v) =
        fun v => v.id == other := by
    funext v
    dsimp only [Function.comp_apply]
    split <;> rfl
  rw [beaten, List.find?_map, hkey]
  by_cases h : id = other
  · subst h
    rw [if_pos rfl]
    refine Option.map_congr fun v hv => ?_
    rw [if_pos (List.find?_some hv)]
  · rw [if_neg h]
    refine (Option.map_congr fun v hv => ?_).trans Option.map_id'
    rw [if_neg]
    simpa [findWorker_id hv] using Ne.symm h

/-! ## What one poll does -/

lemma HasBuiltQueue.handOut (h : s.HasBuiltQueue) (sessionId worker : String) (now : Binary64) :
    (s.handOut sessionId worker now).HasBuiltQueue where
  ids := h.ids.sublist (List.filter_sublist.map _)
  times w hw := h.times w (List.mem_filter.1 hw).1

/-- Repeated claims hand out the next pieces of work. -/
lemma claimMany_eq (htables : s.Has workTables) (hbuilt : s.HasBuiltQueue) (worker : String)
    (projects : Option (List String)) (now : Binary64) (n : Nat) :
    ∃ s', claimMany worker projects now n s = (.ok ((s.eligible projects).take n), s') ∧
      s.HandsOut worker now ((s.eligible projects).take n) s' := by
  induction n generalizing s with
  | zero => exact ⟨s, rfl, .nil s⟩
  | succ n ih =>
    have hclaim := claim_of_has htables worker projects now
    rw [claimMany]
    rcases hnext : s.eligible projects with - | ⟨w, ws⟩ <;> rw [hnext] at hclaim
    · exact ⟨s, Run.bind_of_ok hclaim, .nil s⟩
    · obtain ⟨s', hrest, hgiven⟩ := ih (s := s.handOut w.sessionId worker now) htables
        (hbuilt.handOut w.sessionId worker now)
      rw [eligible_handOut hbuilt.times hbuilt.ids hnext] at hrest hgiven
      have hmem : w ∈ s.queue := (mem_eligible.1 (hnext ▸ List.mem_cons_self)).1
      refine ⟨s', ?_, .cons hmem hgiven⟩
      rw [Run.bind_of_ok hclaim]
      exact Run.bind_of_ok hrest

lemma HandsOut.onlyHandsOut {worker : String} {ws : List Work} (h : s.HandsOut worker now ws s') :
    s.OnlyHandsOut (ws.map Work.sessionId) s' := by
  induction h with
  | nil s => exact .refl s
  | @cons s _ w _ _ _ ih => exact (OnlyHandsOut.handOut s w.sessionId worker now).trans ih

/-- What is not handed out keeps its rows. -/
lemma filter_eq_of_notMem {ρ : Type} {key : ρ → String} {ids : List String} {id : String}
    (hid : id ∉ ids) {rows rows' : List ρ}
    (h : (rows'.filter fun x => key x ∉ ids) = rows.filter fun x => key x ∉ ids) :
    (rows'.filter fun x => key x = id) = rows.filter fun x => key x = id := by
  have hboth (xs : List ρ) : (xs.filter fun x => key x = id) =
      (xs.filter fun x => key x ∉ ids).filter fun x => key x = id := by
    rw [List.filter_filter]
    refine List.filter_congr fun x _ => ?_
    by_cases hx : key x = id
    · simp [hx, hid]
    · simp [hx]
  rw [hboth, h, ← hboth]

/-- The rows of a session that has been handed out. -/
lemma filter_handOut (s : Store) (sessionId worker : String) (now : Binary64) :
    ((s.handOut sessionId worker now).claims.filter fun c => c.sessionId = sessionId) =
        [⟨sessionId, worker, now⟩] ∧
      ((s.handOut sessionId worker now).sessions.filter fun x => x.sessionId = sessionId) =
        (s.sessions.filter fun x => x.sessionId = sessionId).map (·.claimBy worker now) := by
  constructor
  · have hgone : ((s.unmark sessionId).claims.filter fun c => c.sessionId = sessionId) = [] := by
      rw [unmark, List.filter_filter, List.filter_eq_nil_iff]
      intro c _
      by_cases h : c.sessionId = sessionId <;> simp [h]
    calc ((s.handOut sessionId worker now).claims.filter fun c => c.sessionId = sessionId)
        = ((s.unmark sessionId).claims.filter fun c => c.sessionId = sessionId) ++
            [⟨sessionId, worker, now⟩] := by
          refine (List.filter_append ..).trans ?_
          simp [unqueue, unmark, updateSession]
      _ = [⟨sessionId, worker, now⟩] := by rw [hgone, List.nil_append]
  · let change (x : Session) : Session :=
      if x.sessionId == sessionId then x.claimBy worker now else x
    have hkey : ((fun x : Session => decide (x.sessionId = sessionId)) ∘ change) =
        fun x => decide (x.sessionId = sessionId) := by
      funext x
      dsimp only [Function.comp_apply, change]
      split <;> rfl
    calc ((s.sessions.map change).filter fun x => x.sessionId = sessionId)
        = (s.sessions.filter fun x => x.sessionId = sessionId).map change := by
          rw [List.filter_map, hkey]
      _ = (s.sessions.filter fun x => x.sessionId = sessionId).map (·.claimBy worker now) := by
          refine List.map_congr_left fun x hx => if_pos ?_
          simpa using (List.mem_filter.1 hx).2

/-- Each session that has been handed out is marked as claimed. -/
lemma HandsOut.marked {worker : String} {ws : List Work} (h : s.HandsOut worker now ws s')
    (hids : (ws.map Work.sessionId).Nodup) :
    ∀ w ∈ ws, (s'.claims.filter fun c => c.sessionId = w.sessionId) =
        [⟨w.sessionId, worker, now⟩] ∧
      (s'.sessions.filter fun x => x.sessionId = w.sessionId) =
        (s.sessions.filter fun x => x.sessionId = w.sessionId).map (·.claimBy worker now) := by
  induction h with
  | nil => exact fun _ hw => nomatch hw
  | @cons s s' w ws _ rest ih =>
    rw [List.map_cons, List.nodup_cons] at hids
    have hfirst := OnlyHandsOut.handOut s w.sessionId worker now
    have hrest := rest.onlyHandsOut
    refine List.forall_mem_cons.2 ⟨?_, fun v hv => ?_⟩
    · obtain ⟨hclaims, hsessions⟩ := filter_handOut s w.sessionId worker now
      rw [filter_eq_of_notMem hids.1 hrest.claims, filter_eq_of_notMem hids.1 hrest.sessions]
      exact ⟨hclaims, hsessions⟩
    · have hne : v.sessionId ∉ [w.sessionId] := by
        rw [List.mem_singleton]
        exact fun hsame => hids.1 (hsame ▸ List.mem_map_of_mem hv)
      obtain ⟨hclaims, hsessions⟩ := ih hids.2 v hv
      rw [filter_eq_of_notMem hne hfirst.sessions] at hsessions
      exact ⟨hclaims, hsessions⟩

/-- The claims of a poll hand out what a peek at the free slots shows. -/
lemma exists_claimMany_eq_peek (htables : s.Has workTables) (hbuilt : s.HasBuiltQueue)
    (worker : Worker) (now : Binary64) :
    ∃ ws s₁, peek (min (max 0 (worker.capacity - worker.activeCount)) 5) worker.projects s =
        (.ok ws, s) ∧
      claimMany worker.id worker.projects now
        (min worker.availableSlots maxClaimsPerPoll).toNat s = (.ok ws, s₁) ∧
      s.HandsOut worker.id now ws s₁ ∧ (ws.map Work.sessionId).Nodup ∧
      (ws.length : Int) ≤ max 0 (worker.capacity - worker.activeCount) := by
  let n := (min worker.availableSlots maxClaimsPerPoll).toNat
  have hslots : (n : Int) = min (max 0 (worker.capacity - worker.activeCount)) 5 := by
    simp only [n, Worker.availableSlots, maxClaimsPerPoll]
    omega
  have hlimit : IsStorable n := by
    have hlarge : (5 : Int) < twoPow 63 := by decide
    unfold IsStorable
    omega
  have hpeek := peek_of_has (htables.mono (by simp [workTables])) hlimit worker.projects
  rw [hslots] at hpeek
  obtain ⟨s₁, hclaims, hgiven⟩ := claimMany_eq htables hbuilt worker.id worker.projects now n
  refine ⟨_, s₁, hpeek, hclaims, hgiven, ?_, ?_⟩
  · exact (nodup_eligible hbuilt.ids worker.projects).sublist ((List.take_sublist _ _).map _)
  · have := List.length_take_le n (s.eligible worker.projects)
    omega

/-- A poll hands out exactly the free capacity. -/
lemma pollsExactly (htables : s.Has workTables) (hbuilt : s.HasBuiltQueue)
    (hworker : s.HoldsWorker id) (now : Binary64) : s.PollsExactly id now where
  serves worker hfind hactive := by
    obtain ⟨hcapacity, hcount⟩ := hworker.storable worker hfind
    obtain rfl := findWorker_id hfind
    obtain ⟨ws, s₁, hpeek, hclaims, hgiven, hids, hlength⟩ :=
      exists_claimMany_eq_peek htables hbuilt worker now
    have honly := hgiven.onlyHandsOut
    have hmarked := hgiven.marked hids
    have hworkers : s₁.workers = s.workers := by rw [honly.rest]
    have hpoll : poll worker.id now s = (do
        if !ws.isEmpty then
          let _ ← heartbeat worker.id (worker.activeCount + ws.length) none now
        return ws) s₁ := by
      rw [poll, Run.bind_of_ok (getWorker_of_has hworker.table _), hfind]
      dsimp only
      rw [if_neg (by simp [hactive]), Run.bind_of_ok hclaims]
    by_cases hnone : ws = []
    · subst hnone
      cases hgiven
      exact ⟨[], s, hpeek, hpoll, hlength, honly, by simp, by simp, by simp, fun _ _ => rfl,
        fun _ => rfl⟩
    · have hpositive := List.length_pos_iff.2 hnone
      have hsum : IsStorable (worker.activeCount + ws.length) := by
        unfold IsStorable at *
        omega
      have htable : s₁.Has [.workers] := by
        rw [Has, honly.rest]
        exact hworker.table
      have hbeat := heartbeat_of_has htable hsum worker.id now
      have hsame (id : String) : s₁.findWorker id = s.findWorker id := by
        rw [findWorker, hworkers, findWorker]
      let beaten := s₁.beaten worker.id (worker.activeCount + ws.length) now
      refine ⟨ws, { s₁ with workers := beaten }, hpeek, hpoll.trans ?_, hlength, ?_,
        fun w hw => (hmarked w hw).1, fun w hw => (hmarked w hw).2, fun _ => ?_,
        fun id hid => ?_, fun h => absurd h hnone⟩
      · rw [if_pos (by simpa using hnone)]
        exact Run.bind_of_ok hbeat
      · have hstore : { s₁ with workers := s.workers } = s₁ := by rw [← hworkers]
        rw [← hstore] at honly
        exact honly
      · exact (find?_beaten s₁ worker.id _ now worker.id).trans
          (by rw [if_pos rfl, hsame, hfind, Option.map_some])
      · exact (find?_beaten s₁ worker.id _ now id).trans
          (by rw [if_neg (Ne.symm hid), hsame])
  refuses hnone := by
    rw [poll, Run.bind_of_ok (getWorker_of_has hworker.table id)]
    rcases hfind : s.findWorker id with - | worker
    · rfl
    · dsimp only
      rw [if_pos (bne_iff_ne.2 (hnone worker hfind))]
      rfl

/-! ## Who touches a registration -/

/-- The registration of a worker is what it was. -/
structure SparesWorker (id : String) (s s' : Store) : Prop where
  missing : s'.missing = s.missing
  worker : s'.findWorker id = s.findWorker id

instance : IsPreorder Store (SparesWorker id) where
  refl _ := ⟨rfl, rfl⟩
  trans _ _ _ h h' := ⟨h'.missing.trans h.missing, h'.worker.trans h.worker⟩

lemma OnlyWork.sparesWorker (h : s.OnlyWork s') : SparesWorker id s s' := by
  rw [h]
  exact ⟨rfl, rfl⟩

/-- A heartbeat spares the registrations of all other workers. -/
lemma heartbeat_sparesWorker {other : String} (hne : other ≠ id) (n : Int) (now : Binary64) :
    (heartbeat other n none now).Keeps (SparesWorker id) := by
  refine Transaction.Keeps.atomically
    (Transaction.Keeps.bind (.of_eq fun _ _ _ => eq_of_requireTable) fun _ => ?_)
  refine Transaction.Keeps.bind (.of_eq fun _ _ _ => eq_of_requireInteger) fun _ => ?_
  refine Transaction.modifyGet_keeps fun s => ⟨rfl, ?_⟩
  exact (find?_beaten s other n now id).trans (if_neg hne)

/-- The record of a worker that has just been registered. -/
def registration (id : String) (capacity : Int) (hostname version : Option String)
    (projects : Option (List String)) (host : String) (now : Binary64) : Worker where
  id
  hostname := some (match hostname with
    | none | some "" => host
    | some name => name)
  capacity
  activeCount := 0
  status := Worker.activeStatus
  registeredAt := now
  lastHeartbeat := now
  version
  projects := match projects with
    | some [] => none
    | projects => projects

/-- A worker whose capacity the table can hold is registered as active and idle, in place of any
registration it had; otherwise nothing is changed. -/
lemma register_cases (id : String) (capacity : Int) (hostname version : Option String)
    (projects : Option (List String)) (host : String) (now : Binary64) (s : Store) :
    (s.Has [.workers] ∧ IsStorable capacity ∧
        (register id capacity hostname version projects host now s).2 = { s with
          workers := (s.workers.filter fun v => v.id != id) ++
            [registration id capacity hostname version projects host now] }) ∨
      ∃ e, register id capacity hostname version projects host now s = (.error e, s) := by
  unfold register
  by_cases htable : Table.workers ∈ s.missing
  · exact .inr ⟨_, Run.bind_of_error (Run.atomically_error
      (Transaction.bind_of_error (requireTable_of_mem htable)))⟩
  have hthere := requireTable_of_notMem htable
  by_cases hcapacity : IsStorable capacity
  · refine .inl ⟨by simpa [Has] using htable, hcapacity, ?_⟩
    rw [Run.bind_of_ok (Run.atomically_ok (?_ : _ = Except.ok ((), _)))]
    · exact reading_snd _ _ _
    · rw [Transaction.bind_of_ok hthere,
        Transaction.bind_of_ok (requireInteger_of_isStorable hcapacity)]
      rfl
  · exact .inr ⟨_, Run.bind_of_error (Run.atomically_error ((Transaction.bind_of_ok hthere).trans
      (Transaction.bind_of_error (requireInteger_of_not_isStorable hcapacity))))⟩

/-- A new registration counts nothing. -/
lemma register_eq_ok {capacity : Int} {hostname version : Option String}
    {projects : Option (List String)} {host : String} {v? : Option Worker}
    (h : register id capacity hostname version projects host now s = (.ok v?, s')) :
    s.Has [.workers] ∧ IsStorable capacity ∧ s.SameWork s' ∧
      ∃ v, s'.findWorker id = some v ∧ v.status = Worker.activeStatus ∧ v.capacity = capacity ∧
        v.activeCount = 0 := by
  rcases register_cases id capacity hostname version projects host now s with
    ⟨htable, hcapacity, hstore⟩ | ⟨e, he⟩
  · rw [h] at hstore
    obtain rfl : s' = _ := hstore
    let v := registration id capacity hostname version projects host now
    refine ⟨htable, hcapacity, ⟨rfl, rfl, rfl, rfl⟩, v, ?_, rfl, rfl, rfl⟩
    exact (find?_replaceKey Worker.id s.workers v id).trans (if_pos rfl)
  · rw [h] at he
    cases he

end Store

/-- The registration of a worker is what it was. -/
def World.SparesWorker {ω : Type} (id : String) (w w' : World ω) : Prop :=
  Store.SparesWorker id w.store w'.store

instance {ω : Type} {id : String} : IsPreorder (World ω) (World.SparesWorker id) where
  refl w := refl w.store
  trans _ _ _ h h' := trans_of (Store.SparesWorker id) h h'

namespace Operation

variable {ω : Type} {op : Operation ω} {w : World ω} {id : String}

/-- The worker to whom an operation hands work. -/
def recipient : Operation ω → Option String
  | claim worker _ | claimSession _ worker | poll worker => some worker
  | _ => none

/-- An operation that neither writes to the registration of a worker nor hands it any work, unless
it is a poll. -/
def SparesWorker (id : String) : Operation ω → Prop
  | poll _ => True
  | elsewhere f _ => ∀ w, (f w).store.findWorker id = w.store.findWorker id
  | op => op.recipient ≠ some id

/-- How much work a worker is handed by an operation. -/
def handedTo (id : String) (op : Operation ω) (w : World ω) : Nat :=
  if op.recipient = some id then (op.report w).handedOut.length else 0

lemma handedTo_of_ne (hspares : op.SparesWorker id) (hother : op ≠ .poll id) :
    op.handedTo id w = 0 := by
  refine if_neg fun hrecipient => ?_
  cases op with
  | poll worker =>
    obtain rfl := Option.some.inj hrecipient
    exact hother rfl
  | elsewhere => cases hrecipient
  | _ => exact hspares hrecipient

/-- Whatever is no poll of the worker leaves its registration alone. -/
lemma sparesWorker_after (hspares : op.SparesWorker id) (hother : op ≠ .poll id) (w : World ω) :
    Store.SparesWorker id w.store (op.after w).store := by
  by_cases hown : op.IsOwn
  · refine run_keeps (R := World.SparesWorker id) (fun w w' h => ?_) (fun _ _ h => h.sparesWorker)
      hown (fun worker hpoll w => ?_) w
    · rw [World.SparesWorker, h.frame]
      exact ⟨rfl, rfl⟩
    · have hne : worker ≠ id := fun heq => hother (heq ▸ hpoll)
      exact Store.poll_keeps (fun _ _ h => h.sparesWorker) worker w.clock
        (fun n => Store.heartbeat_sparesWorker hne n w.clock) w.store
  · cases op with
    | elsewhere f leaves => exact ⟨(leaves w).store.missing, hspares w⟩
    | _ => exact absurd trivial hown

end Operation

/-! ## Runs -/

namespace World

variable {ω : Type} {w : World ω} {id : String} {capacity : Int}

/-- How much work a worker is handed by operations one after the other. -/
def handedTo (id : String) (w : World ω) : List (Operation ω) → Nat
  | [] => 0
  | op :: ops => op.handedTo id w + handedTo id (op.after w) ops

/-- A worker of some capacity is registered as active, and counts a number of pieces of work that
does not exceed its capacity. -/
structure Counts (id : String) (capacity : Int) (handed : Nat) (w : World ω) : Prop where
  clock : w.clock.isNaN = false
  wellFormed : w.store.WellFormed
  table : w.store.Has [.workers]
  registered : ∃ v, w.store.findWorker id = some v ∧ v.status = Worker.activeStatus ∧
    v.capacity = capacity ∧ v.activeCount = handed
  le : (handed : Int) ≤ max 0 capacity

/-- An operation adds to the count what it hands to the worker. -/
lemma Counts.after {handed : Nat} (h : w.Counts id capacity handed)
    (hcapacity : Store.IsStorable capacity) {op : Operation ω} (hspares : op.SparesWorker id) :
    (op.after w).Counts id capacity (handed + op.handedTo id w) := by
  obtain ⟨hclock, hwell⟩ := op.wellFormed_after h.clock h.wellFormed
  obtain ⟨v, hfind, hactive, hsize, hcount⟩ := h.registered
  by_cases hop : op = .poll id
  · subst hop
    have hle := h.le
    have hholds : w.store.HoldsWorker id := by
      refine ⟨h.table, fun v' hv' => ?_⟩
      obtain rfl := Option.some.inj (hfind.symm.trans hv')
      unfold Store.IsStorable at *
      omega
    obtain ⟨ws, s', -, hpoll, hserves⟩ := (Store.pollsExactly h.wellFormed.tables
      ⟨h.wellFormed.queueIds, h.wellFormed.queueTimes⟩ hholds w.clock).serves v hfind hactive
    have hrun : (Operation.poll id : Operation ω).run w =
        (.ok { handedOut := ws }, { w with store := s' }) :=
      Run.bind_of_ok (onStoreNow_of_eq hpoll)
    have hafter : (Operation.poll id : Operation ω).after w = { w with store := s' } := by
      rw [Operation.after, hrun]
    have hhanded : (Operation.poll id : Operation ω).handedTo id w = ws.length := by
      rw [Operation.handedTo, Operation.report, hrun]
      exact if_pos rfl
    rw [hafter] at hclock hwell ⊢
    rw [hhanded]
    have hmissing : s'.missing = w.store.missing := by
      have hrest := congrArg Store.missing hserves.handsOut.rest
      exact hrest
    refine ⟨hclock, hwell, h.table.of_missing_eq hmissing, ?_, ?_⟩
    · obtain rfl := Store.findWorker_id hfind
      by_cases hnone : ws = []
      · rw [hserves.nothing hnone, hnone]
        exact ⟨v, hfind, hactive, hsize, hcount⟩
      · refine ⟨_, hserves.counted hnone, hactive, hsize, ?_⟩
        dsimp only
        rw [hcount]
        push_cast
        rfl
    · have := hserves.fits
      push_cast
      omega
  · have hspared := Operation.sparesWorker_after hspares hop w
    rw [Operation.handedTo_of_ne hspares hop, Nat.add_zero]
    exact ⟨hclock, hwell, h.table.of_missing_eq hspared.missing,
      ⟨v, hspared.worker.trans hfind, hactive, hsize, hcount⟩, h.le⟩

lemma Counts.runAll {handed : Nat} (h : w.Counts id capacity handed)
    (hcapacity : Store.IsStorable capacity) {ops : List (Operation ω)}
    (hspares : ∀ op ∈ ops, op.SparesWorker id) :
    (w.runAll ops).Counts id capacity (handed + w.handedTo id ops) := by
  induction ops generalizing w handed with
  | nil => exact h
  | cons op ops ih =>
    obtain ⟨hop, hops⟩ := List.forall_mem_cons.1 hspares
    rw [handedTo, ← Nat.add_assoc]
    exact ih (h.after hcapacity hop) hops

/-- In every store a poll hands out to an active worker exactly what a peek at its free slots shows,
marks it as claimed by the worker and counts it in its registration; to anyone else it hands out
nothing.  And if from its registration on nothing but polls touches the record of a worker, whatever
others do with the queue, then its count is the amount of work that it has been handed, and this
never exceeds its capacity. -/
theorem polls_fill_capacity :
    (∀ (s : Store) (id : String) (now : Binary64), s.Has Store.workTables → s.HasBuiltQueue →
      s.HoldsWorker id → s.PollsExactly id now) ∧
    ∀ (w : World ω) (id : String) (capacity : Int) (hostname version : Option String)
      (projects : Option (List String)) (host : String) (v? : Option Worker) (s : Store),
      w.clock.isNaN = false → w.store.WellFormed →
      Store.register id capacity hostname version projects host w.clock w.store = (.ok v?, s) →
      ∀ ops : List (Operation ω), (∀ op ∈ ops, op.SparesWorker id) →
        ∃ v, ({ w with store := s }.runAll ops).store.findWorker id = some v ∧
          v.status = Worker.activeStatus ∧ v.capacity = capacity ∧
          v.activeCount = { w with store := s }.handedTo id ops ∧
          ({ w with store := s }.handedTo id ops : Int) ≤ max 0 capacity := by
  refine ⟨fun s id now htables hbuilt hworker => Store.pollsExactly htables hbuilt hworker now, ?_⟩
  intro w id capacity hostname version projects host v? s hclock hwell hregister ops hspares
  obtain ⟨htable, hcapacity, hsame, hregistered⟩ := Store.register_eq_ok hregister
  have hstart : { w with store := s }.Counts id capacity 0 :=
    ⟨hclock, hwell.of_sameWork hsame, htable.of_missing_eq hsame.missing, hregistered,
      Int.le_max_left 0 capacity⟩
  have hend := hstart.runAll hcapacity hspares
  rw [Nat.zero_add] at hend
  obtain ⟨v, hfind, hactive, hsize, hcount⟩ := hend.registered
  exact ⟨v, hfind, hactive, hsize, hcount, hend.le⟩

/-- A world in which work waits and a worker with room for two has registered. -/
def staffed : World Unit :=
  { World.fresh with
    store := {
      queue := [Store.workQueuedAt "a" 1 0 none]
      workers := [Store.registration "u" 2 none none none "host" 0] } }

/-- More work comes in; the worker polls, another one claims, and the worker polls again. -/
def staffedRun : List (Operation Unit) :=
  [.enqueue (Store.workQueuedAt "b" 0 5 (some "p")), .poll "u",
    .enqueue (Store.workQueuedAt "c" 1 0 (some "q")), .claim "v" none,
    .enqueue (Store.workQueuedAt "d" 1 0 none), .poll "u"]

/-- A poll hands out the work that waits; whatever else comes in, the worker is handed two pieces of
work at most. -/
theorem polls_fill_capacity_staffed :
    (∃ s', Store.poll "u" 0 staffed.store = (.ok staffed.store.queue, s') ∧
        (s'.findWorker "u").map Worker.activeCount = some 1) ∧
      ∃ v, (staffed.runAll staffedRun).store.findWorker "u" = some v ∧
        v.activeCount = staffed.handedTo "u" staffedRun ∧
        (staffed.handedTo "u" staffedRun : Int) ≤ 2 := by
  obtain ⟨hexact, hruns⟩ := polls_fill_capacity (ω := Unit)
  have hbuilt : staffed.store.HasBuiltQueue := ⟨by decide, by decide⟩
  have htables (ts : List Table) : staffed.store.Has ts := Store.has_of_missing rfl ts
  constructor
  · have hholds : staffed.store.HoldsWorker "u" := by
      refine ⟨htables _, fun v hv => ?_⟩
      obtain rfl := Option.some.inj hv
      decide
    obtain ⟨ws, s', hpeek, hpoll, hserves⟩ :=
      (hexact staffed.store "u" 0 (htables _) hbuilt hholds).serves _ rfl rfl
    have hqueue : staffed.store.eligible none = staffed.store.queue := List.mergeSort_singleton _
    have hws : ws = staffed.store.queue := by
      have hshown := Store.peek_of_has (n := 2) (htables [.workQueue]) (by decide) none
      rw [hqueue] at hshown
      exact (Except.ok.inj (Prod.mk.inj (hpeek.symm.trans hshown)).1)
    subst hws
    exact ⟨s', hpoll, congrArg (Option.map Worker.activeCount) (hserves.counted (by decide))⟩
  · have hwell : { staffed.store with workers := [] }.WellFormed :=
      ⟨htables _, hbuilt.ids, by decide, hbuilt.times, by decide⟩
    have hspares : ∀ op ∈ staffedRun, op.SparesWorker "u" := by
      simp [staffedRun, Operation.SparesWorker, Operation.recipient]
    obtain ⟨v, hfind, -, -, hcount, hle⟩ :=
      hruns { staffed with store := { staffed.store with workers := [] } } "u" 2 none none none
        "host" _ staffed.store rfl hwell rfl staffedRun hspares
    exact ⟨v, hfind, hcount, hle⟩

end World

end IssueDispatch
