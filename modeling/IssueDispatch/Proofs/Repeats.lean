import IssueDispatch.Proofs.Dedup
import IssueDispatch.Proofs.Standard

/-!
# What a deduplicator answers

A deduplicator that is asked at times that never go back answers as if it remembered everything: a
report is a repeat if the last report of its key that was none is less than a window ago, not
counting what lies before the last time that all reports were forgotten.  `Dedup.reference` reads
that off the history of calls alone.

The deduplicator of the process and the one of the store forget old reports on different occasions
and with different thresholds.  What either remembers is part of the history, and what it has
forgotten is outside the window for good (`Dedup.Agrees`), so both answer as the history says.
-/

namespace IssueDispatch

variable {ω : Type}

namespace Dedup

/-! ## Histories -/

/-- What a deduplicator can be asked to do. -/
inductive Query where
  | seen (key : String)
  | clear
deriving DecidableEq

/-- A call of a deduplicator at a clock reading. -/
structure Turn where
  time : Binary64
  query : Query
deriving DecidableEq

/-- The calls before another one with what they have answered, the last one first. -/
abbrev Past := List (Turn × Option Bool)

/-- When a key was last reported without being a repeat, since everything was last forgotten. -/
def lastFresh (key : String) : Past → Option Binary64
  | [] => none
  | (turn, answer) :: past =>
    match turn.query with
    | .clear => none
    | .seen other =>
      if other = key ∧ answer = some false then some turn.time else lastFresh key past

/-- What the history calls for: a report is a repeat if the last one that was none still reaches it.
-/
def due (reaches : Binary64 → Binary64 → Bool) (past : Past) (turn : Turn) : Option Bool :=
  match turn.query with
  | .seen key => some ((lastFresh key past).any fun s => reaches s turn.time)
  | .clear => none

/-- The answers that the history calls for, one call after the other. -/
def reference (reaches : Binary64 → Binary64 → Bool) : Past → List Turn → List (Option Bool)
  | _, [] => []
  | past, turn :: turns =>
    due reaches past turn :: reference reaches ((turn, due reaches past turn) :: past) turns

/-- One time is less than a window before another one, as it is computed. -/
def reaches (window s t : Binary64) : Bool := decide (t - s < window)

/-- One time is less than a window before another one, in exact arithmetic. -/
def reachesExactly (window s t : Binary64) : Bool :=
  match s.units?, t.units?, window.key? with
  | some x, some y, some z => decide (y - x < z)
  | _, _, _ => false

/-- Whether the time between two finite times is a number of the format. -/
def isExactGap (s t : Binary64) : Bool :=
  match s.units?, t.units? with
  | some x, some y => decide (Binary64.Fits (y - x))
  | _, _ => false

/-- Between such times it makes no difference how their distance is computed. -/
lemma reaches_eq_exactly (window : Binary64) {s t : Binary64} (h : isExactGap s t = true) :
    reaches window s t = reachesExactly window s t := by
  obtain ⟨x, y, hx, hy, hfits⟩ :
      ∃ x y, s.units? = some x ∧ t.units? = some y ∧ Binary64.Fits (y - x) := by
    unfold isExactGap at h
    split at h
    · rename_i x y hx hy
      exact ⟨x, y, hx, hy, of_decide_eq_true h⟩
    · cases h
  have hgap : (t - s).key? = some (y - x) := by
    rw [Binary64.key?_sub hy hx, Binary64.nearest_of_fits hfits]
  unfold reaches reachesExactly
  rw [hx, hy]
  cases hz : window.key? with
  | none =>
    have hnot : ¬ t - s < window := by
      intro hlt
      obtain ⟨-, z, -, hz', -⟩ := Binary64.lt_iff.1 hlt
      rw [hz] at hz'
      cases hz'
    exact decide_eq_false hnot
  | some z => exact decide_eq_decide.2 (Binary64.lt_iff_of_key hgap hz)

/-- What the history says depends on the times of its calls alone. -/
lemma lastFresh_mem {key : String} {past : Past} {s : Binary64} (h : lastFresh key past = some s) :
    ∃ c ∈ past, c.1.time = s := by
  induction past with
  | nil => cases h
  | cons c past ih =>
    obtain ⟨turn, answer⟩ := c
    unfold lastFresh at h
    cases hquery : turn.query with
    | clear =>
      rw [hquery] at h
      cases h
    | seen other =>
      rw [hquery] at h
      dsimp only at h
      split at h
      · exact ⟨_, List.mem_cons_self, Option.some.inj h⟩
      · obtain ⟨c, hc, htime⟩ := ih h
        exact ⟨c, List.mem_cons_of_mem _ hc, htime⟩

/-- Where all distances are exact the history calls for the same answers in exact arithmetic. -/
lemma reference_eq_exactly (window : Binary64) {past : Past} {turns : List Turn}
    (hpast : ∀ c ∈ past, ∀ t ∈ turns, isExactGap c.1.time t.time = true)
    (hturns : turns.Pairwise fun s t => isExactGap s.time t.time = true) :
    reference (reaches window) past turns = reference (reachesExactly window) past turns := by
  induction turns generalizing past with
  | nil => rfl
  | cons turn turns ih =>
    obtain ⟨hfirst, hrest⟩ := List.pairwise_cons.1 hturns
    have hdue : due (reaches window) past turn = due (reachesExactly window) past turn := by
      unfold due
      cases turn.query with
      | clear => rfl
      | seen key =>
        dsimp only
        cases hlast : lastFresh key past with
        | none => rfl
        | some s =>
          obtain ⟨c, hc, rfl⟩ := lastFresh_mem hlast
          exact congrArg some (reaches_eq_exactly window (hpast c hc turn List.mem_cons_self))
    have hnext : ∀ c ∈ (turn, due (reaches window) past turn) :: past, ∀ t ∈ turns,
        isExactGap c.1.time t.time = true := by
      intro c hc t ht
      rcases List.mem_cons.1 hc with rfl | hc
      · exact hfirst t ht
      · exact hpast c hc t (List.mem_cons_of_mem _ ht)
    rw [reference, reference, ih hnext hrest, hdue]

/-! ## What is remembered of a history -/

/-- What is remembered at some time is part of the history, and what is not is outside the window
from then on. -/
structure Agrees (window now : Binary64) (m : List Sighting) (past : Past) : Prop where
  sound : IsSound m
  kept : ∀ x ∈ m, lastFresh x.key past = some x.seenAt
  forgotten : ∀ key s, lastFresh key past = some s → ⟨key, s⟩ ∈ m ∨ window ≤ now - s
  times : ∀ c ∈ past, c.1.time.isFinite = true ∧ c.1.time ≤ now

variable {window now t : Binary64} {m m' : List Sighting} {past : Past} {key : String}

namespace Agrees

/-- Nothing comes back to a memory. -/
lemma of_le (h : Agrees window now m past) (hnow : now.isFinite = true) (ht : t.isFinite = true)
    (hle : now ≤ t) : Agrees window t m past where
  sound := h.sound
  kept := h.kept
  forgotten other s hlast := by
    refine (h.forgotten other s hlast).imp_right fun hold => ?_
    obtain ⟨c, hc, rfl⟩ := lastFresh_mem hlast
    have hfinite := (h.times c hc).1
    have hlonger := Binary64.sub_le_sub hfinite hfinite hnow ht hle (Binary64.le_self hfinite)
    exact Binary64.le_trans hold hlonger
  times c hc := ⟨(h.times c hc).1, Binary64.le_trans (h.times c hc).2 hle⟩

/-- A report is hidden by what is remembered exactly if the history calls it a repeat. -/
lemma hides_iff (h : Agrees window now m past) :
    Hides m window key now ↔ (lastFresh key past).any (fun s => reaches window s now) = true := by
  rw [Option.any_eq_true]
  constructor
  · rintro ⟨x, hx, rfl, hlate⟩
    exact ⟨x.seenAt, h.kept x hx, decide_eq_true hlate⟩
  · rintro ⟨s, hlast, hlate⟩
    have hlate : now - s < window := of_decide_eq_true hlate
    refine ⟨⟨key, s⟩, (h.forgotten key s hlast).resolve_right fun hold => ?_, rfl, hlate⟩
    exact Binary64.not_lt_of_le hold hlate

/-- A repeat leaves the history as it counts, and the memory at most forgets. -/
lemma hidden (h : Agrees window now m past) (hnow : now.isFinite = true) (hsub : m'.Sublist m)
    (hforgotten : ∀ x ∈ m, x ∈ m' ∨ window ≤ now - x.seenAt) :
    Agrees window now m' ((⟨now, .seen key⟩, some true) :: past) := by
  have hsame (other : String) :
      lastFresh other ((⟨now, .seen key⟩, some true) :: past) = lastFresh other past := by
    simp [lastFresh]
  refine ⟨h.sound.sublist hsub, fun x hx => ?_, fun other s hlast => ?_, fun c hc => ?_⟩
  · rw [hsame]
    exact h.kept x (hsub.subset hx)
  · rw [hsame] at hlast
    rcases h.forgotten other s hlast with hx | hold
    · exact hforgotten _ hx
    · exact Or.inr hold
  · rcases List.mem_cons.1 hc with rfl | hc
    · exact ⟨hnow, Binary64.le_self hnow⟩
    · exact h.times c hc

/-- A report that is no repeat is the last one of its key from then on. -/
lemma noted (h : Agrees window now m past) (hnow : now.isFinite = true) (hmem : ⟨key, now⟩ ∈ m')
    (hsound : IsSound m') (hsub : ∀ x ∈ m', x = ⟨key, now⟩ ∨ x ∈ m)
    (hforgotten : ∀ x ∈ m, x.key = key ∨ x ∈ m' ∨ window ≤ now - x.seenAt) :
    Agrees window now m' ((⟨now, .seen key⟩, some false) :: past) := by
  have hlast (other : String) :
      lastFresh other ((⟨now, .seen key⟩, some false) :: past) =
        if key = other then some now else lastFresh other past := by
    simp [lastFresh]
  refine ⟨hsound, fun x hx => ?_, fun other s hs => ?_, fun c hc => ?_⟩
  · rw [hlast]
    by_cases hkey : key = x.key
    · -- Every key stands once in the memory, so what it holds of this one is the new report.
      have hnew : ⟨key, now⟩ = x :=
        List.inj_on_of_nodup_map hsound.keys hmem hx hkey
      rw [if_pos hkey, ← hnew]
    · rw [if_neg hkey]
      refine h.kept x ((hsub x hx).resolve_left ?_)
      rintro rfl
      exact hkey rfl
  · rw [hlast] at hs
    by_cases hkey : key = other
    · rw [if_pos hkey] at hs
      obtain rfl := Option.some.inj hs
      exact Or.inl (hkey ▸ hmem)
    · rw [if_neg hkey] at hs
      rcases h.forgotten other s hs with hx | hold
      · exact (hforgotten _ hx).resolve_left (Ne.symm hkey)
      · exact Or.inr hold
  · rcases List.mem_cons.1 hc with rfl | hc
    · exact ⟨hnow, Binary64.le_self hnow⟩
    · exact h.times c hc

/-- When everything is forgotten nothing of the history counts any more. -/
lemma cleared (h : Agrees window now m past) (hnow : now.isFinite = true) :
    Agrees window now [] ((⟨now, .clear⟩, none) :: past) := by
  refine ⟨.nil, nofun, nofun, fun c hc => ?_⟩
  rcases List.mem_cons.1 hc with rfl | hc
  · exact ⟨hnow, Binary64.le_self hnow⟩
  · exact h.times c hc

/-- Asking for a key gives the answer that the history calls for. -/
lemma step (h : Agrees window now m past) (hnow : now.isFinite = true) {answer : Bool}
    (hnoting : Noting window key now m answer m') :
    some answer = due (reaches window) past ⟨now, .seen key⟩ ∧
      Agrees window now m' ((⟨now, .seen key⟩, some answer) :: past) := by
  cases hnoting with
  | hidden hides sub forgotten =>
    exact ⟨congrArg some (h.hides_iff.1 hides).symm, h.hidden hnow sub forgotten⟩
  | noted free mem sound sub forgotten =>
    have hfresh := Bool.eq_false_iff.2 (mt h.hides_iff.2 free)
    exact ⟨congrArg some hfresh.symm, h.noted hnow mem sound sub forgotten⟩

end Agrees

/-! ## Runs -/

/-- A deduplicator can be asked: the process remembers at any time, the store if it has a table for
reports. -/
def IsThere (d : Dedup) (w : World ω) : Prop :=
  match d with
  | inProcess _ => True
  | stored _ => w.store.Has [.eventDedup]

/-- Asks a deduplicator at a clock reading. -/
def ask (d : Dedup) (window : Binary64) (turn : Turn) : Run (World ω) (Option Bool) := do
  modify fun w => { w with clock := turn.time }
  match turn.query with
  | .seen key => return some (← d.seen key (some window))
  | .clear =>
    d.clear
    return none

/-- Asks a deduplicator one time after the other. -/
def answers (d : Dedup) (window : Binary64) (turns : List Turn) :
    Run (World ω) (List (Option Bool)) :=
  turns.mapM (d.ask window)

variable {d : Dedup} {w : World ω}

/-- Asking for a key gives an answer, and the memory stays where it is. -/
lemma exists_seen (hthere : d.IsThere w) (hsound : IsSound (d.memory w)) (hpos : 0 < window)
    (hclock : w.clock.isFinite = true) (key : String) :
    ∃ answer w', d.seen key (some window) w = (.ok answer, w') ∧ d.IsThere w' ∧
      Noting window key w.clock (d.memory w) answer (d.memory w') := by
  cases d with
  | inProcess usual =>
    exact ⟨_, _, rfl, trivial, seenHere_noting hsound hpos hclock usual key⟩
  | stored usual =>
    obtain ⟨answer, m', hseen, hnoting⟩ := storeSeen_noting hsound hpos hclock key hthere
    exact ⟨answer, _, World.onStoreNow_of_eq (x := Store.seen key window) hseen, hthere, hnoting⟩

/-- Forgetting every report leaves nothing to remember. -/
lemma exists_clear (hthere : d.IsThere w) :
    ∃ w', d.clear w = (.ok (), w') ∧ d.IsThere w' ∧ d.memory w' = [] := by
  cases d with
  | inProcess usual => exact ⟨_, rfl, trivial, rfl⟩
  | stored usual =>
    have hclear : Store.clearSightings w.store = (.ok (), { w.store with sightings := [] }) :=
      Store.changing_of_has hthere _
    exact ⟨_, World.onStore_of_eq hclear, hthere, rfl⟩

/-- A call gives the answer that the history calls for. -/
lemma exists_ask (hpos : 0 < window) (hthere : d.IsThere w) {turn : Turn}
    (hturn : turn.time.isFinite = true) (h : Agrees window turn.time (d.memory w) past) :
    ∃ w', d.ask window turn w = (.ok (due (reaches window) past turn), w') ∧ d.IsThere w' ∧
      Agrees window turn.time (d.memory w') ((turn, due (reaches window) past turn) :: past) := by
  have hmemory : d.memory { w with clock := turn.time } = d.memory w := by cases d <;> rfl
  have hthere : d.IsThere { w with clock := turn.time } := by
    cases d with
    | inProcess usual => exact trivial
    | stored usual => exact hthere
  rw [← hmemory] at h
  rw [ask, Run.bind_of_ok (Run.modify_apply _ w)]
  obtain ⟨time, query⟩ := turn
  cases query with
  | seen key =>
    obtain ⟨answer, w', hseen, hthere', hnoting⟩ := exists_seen hthere h.sound hpos hturn key
    obtain ⟨hanswer, hagrees⟩ := h.step hturn hnoting
    rw [← hanswer]
    exact ⟨w', Run.bind_of_ok hseen, hthere', hagrees⟩
  | clear =>
    obtain ⟨w', hclear, hthere', hmemory'⟩ := exists_clear hthere
    refine ⟨w', Run.bind_of_ok hclear, hthere', ?_⟩
    rw [hmemory']
    exact h.cleared hturn

/-- All answers are those that the history calls for. -/
lemma answers_eq_reference (hpos : 0 < window) {turns : List Turn}
    (hfinite : ∀ turn ∈ turns, turn.time.isFinite = true)
    (hordered : turns.Pairwise fun s t => s.time ≤ t.time) (hthere : d.IsThere w)
    (h : ∀ turn ∈ turns, Agrees window turn.time (d.memory w) past) :
    (d.answers window turns w).1 = .ok (reference (reaches window) past turns) := by
  induction turns generalizing w past with
  | nil => rfl
  | cons turn turns ih =>
    obtain ⟨hturn, hrest⟩ := List.forall_mem_cons.1 hfinite
    obtain ⟨hbefore, hordered⟩ := List.pairwise_cons.1 hordered
    obtain ⟨w', hask, hthere', hagrees⟩ :=
      exists_ask hpos hthere hturn (h turn List.mem_cons_self)
    have hlater : ∀ t ∈ turns, Agrees window t.time (d.memory w')
        ((turn, due (reaches window) past turn) :: past) :=
      fun t ht => hagrees.of_le hturn (hrest t ht) (hbefore t ht)
    exact Run.mapM_cons_of_ok hask (ih hrest hordered hthere' hlater)

/-- **Both deduplicators implement the same window.**  Whatever their own windows are, they answer
the same to calls with a common window at times that never go back: a report is a repeat exactly if
the last report of its key that was none, since everything was last forgotten, is less than the
window ago.  Where the distances of all times are exact this holds in exact arithmetic. -/
theorem answers_from_history (hpos : 0 < window) (usual usual' : Binary64) {turns : List Turn}
    (hfinite : ∀ turn ∈ turns, turn.time.isFinite = true)
    (hordered : turns.Pairwise fun s t => s.time ≤ t.time) {w w' : World ω}
    (hempty : w.sightings = []) (hempty' : w'.store.sightings = [])
    (htable : w'.store.Has [.eventDedup]) :
    ∃ as, ((inProcess usual).answers window turns w).1 = .ok as ∧
      ((stored usual').answers window turns w').1 = .ok as ∧
      as = reference (reaches window) [] turns ∧
      ((turns.Pairwise fun s t => isExactGap s.time t.time = true) →
        as = reference (reachesExactly window) [] turns) := by
  have hstart (t : Binary64) : Agrees window t [] [] := ⟨.nil, nofun, nofun, nofun⟩
  refine ⟨reference (reaches window) [] turns, ?_, ?_, rfl, fun hexact => ?_⟩
  · refine answers_eq_reference (d := inProcess usual) hpos hfinite hordered trivial ?_
    intro turn _
    rw [memory, hempty]
    exact hstart turn.time
  · refine answers_eq_reference (d := stored usual') hpos hfinite hordered htable ?_
    intro turn _
    rw [memory, hempty']
    exact hstart turn.time
  · exact reference_eq_exactly window nofun hexact

/-- Reports of two keys, one of which is repeated and comes back at the end of its window, with a
fresh start later on. -/
def interleaved : List Turn := [⟨0, .seen "a"⟩, ⟨6, .seen "a"⟩, ⟨6, .seen "b"⟩, ⟨10, .seen "a"⟩,
  ⟨12, .seen "b"⟩, ⟨13, .clear⟩, ⟨13, .seen "b"⟩]

/-- The repeat after six seconds does not extend the window of ten seconds. -/
theorem answers_from_history_interleaved :
    ((inProcess 100).answers 10 interleaved World.fresh).1 =
        .ok (reference (reachesExactly 10) [] interleaved) ∧
      ((stored 1).answers 10 interleaved World.fresh).1 =
        .ok (reference (reachesExactly 10) [] interleaved) ∧
      reference (reachesExactly 10) [] interleaved = [some false, some true, some false,
        some false, some true, none, some false] := by
  have hpos : (0 : Binary64) < 10 := by decide +kernel
  have hfinite : ∀ turn ∈ interleaved, turn.time.isFinite = true := by decide +kernel
  have hordered : interleaved.Pairwise fun s t => s.time ≤ t.time := by decide +kernel
  have hempty : World.fresh.sightings = [] := rfl
  have hempty' : World.fresh.store.sightings = [] := rfl
  obtain ⟨as, hhere, hstored, -, hexactly⟩ := answers_from_history hpos 100 1 hfinite hordered
    hempty hempty' (Store.has_of_missing rfl _)
  rw [hhere, hstored, hexactly (by decide +kernel)]
  exact ⟨rfl, rfl, by decide +kernel⟩

end Dedup

end IssueDispatch
