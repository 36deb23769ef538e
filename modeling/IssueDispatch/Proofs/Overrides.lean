import IssueDispatch.Collaborators
import IssueDispatch.Proofs.Store.Transactions

/-!
# What is in force

An override is in force until its time is over.  Reading an override removes it from its shelf once
its time is over, so a question about an issue may change what is kept; it never changes what is in
force.  `World.OnlyLapsed` is the trace that questions leave behind: besides the state outside, only
overrides that were over have gone.
-/

namespace IssueDispatch

variable {ω α : Type}

namespace OverrideShelf

/-- The overrides kept on a shelf, expired or not. -/
def kept (shelf : OverrideShelf) (w : World ω) : List Override :=
  match shelf with
  | shared => w.store.overrides
  | inProcess => w.overrides

/-- The override that some overrides put in force for an issue at some time. -/
def current (os : List Override) (now : Binary64) (issueId : String) : Option Override :=
  (os.find? fun o => o.issueId == issueId).filter fun o => !o.isExpired now

/-- The override in force for an issue. -/
def inForce (shelf : OverrideShelf) (w : World ω) (issueId : String) : Option Override :=
  current (shelf.kept w) w.clock issueId

/-- The override that some overrides hold for an issue, if it never expires. -/
def lasting (os : List Override) (issueId : String) : Option Override :=
  (os.find? fun o => o.issueId == issueId).filter fun o => o.expiresAt.isNone

/-- The override kept for an issue, if it never expires. -/
def standing (shelf : OverrideShelf) (w : World ω) (issueId : String) : Option Override :=
  lasting (shelf.kept w) issueId

/-- What never expires is in force at any time. -/
lemma standing_eq (shelf : OverrideShelf) (w : World ω) (issueId : String) :
    shelf.standing w issueId =
      (shelf.inForce w issueId).filter fun o => o.expiresAt.isNone := by
  have hstays : (fun o : Override => !o.isExpired w.clock && o.expiresAt.isNone) =
      fun o => o.expiresAt.isNone := by
    funext o
    rw [Override.isExpired]
    cases o.expiresAt <;> simp
  rw [standing, lasting, inForce, current, Option.filter_filter, hstays]

lemma standing_of_inForce {shelf : OverrideShelf} {w w' : World ω} {issueId : String}
    (h : shelf.inForce w' issueId = shelf.inForce w issueId) :
    shelf.standing w' issueId = shelf.standing w issueId := by
  rw [standing_eq, standing_eq, h]

/-- Removing what is over changes nothing that is in force. -/
lemma current_of_expired {os : List Override} {now : Binary64} {issueId : String} {o : Override}
    (hfind : os.find? (fun x => x.issueId == issueId) = some o) (hover : o.isExpired now = true)
    (other : String) :
    current (os.filter fun x => x.issueId != issueId) now other = current os now other := by
  rw [current, current, find?_filter_key Override.issueId]
  by_cases h : issueId = other
  · rw [if_pos h, ← h, hfind, Option.filter_some, hover]
    rfl
  · rw [if_neg h]

end OverrideShelf

namespace World

/-- Nothing but the state outside has changed. -/
def OnlyOutside (w w' : World ω) : Prop := ∃ o, w' = { w with outside := o }

/-- Nothing has changed but the state outside and what is kept of overrides that were over. -/
structure OnlyLapsed (w w' : World ω) : Prop where
  frame : w' = { w with
    store := { w.store with overrides := w'.store.overrides }
    overrides := w'.overrides
    outside := w'.outside }
  inForce : ∀ (shelf : OverrideShelf) issueId, shelf.inForce w' issueId = shelf.inForce w issueId

instance : IsPreorder (World ω) OnlyOutside where
  refl w := ⟨w.outside, rfl⟩
  trans := by
    rintro w _ _ ⟨o, rfl⟩ ⟨o', rfl⟩
    exact ⟨o', rfl⟩

namespace OnlyLapsed

variable {w w' w₁ : World ω}

protected lemma trans (h : OnlyLapsed w w') (h' : OnlyLapsed w' w₁) : OnlyLapsed w w₁ := by
  refine ⟨?_, fun shelf issueId => (h'.inForce shelf issueId).trans (h.inForce shelf issueId)⟩
  rw [h'.frame, h.frame]

instance : IsPreorder (World ω) OnlyLapsed where
  refl _ := ⟨rfl, fun _ _ => rfl⟩
  trans _ _ _ h h' := h.trans h'

lemma of_onlyOutside (h : OnlyOutside w w') : OnlyLapsed w w' := by
  obtain ⟨o, rfl⟩ := h
  exact ⟨rfl, fun shelf issueId => by cases shelf <;> rfl⟩

lemma clock (h : OnlyLapsed w w') : w'.clock = w.clock := by rw [h.frame]

lemma missing (h : OnlyLapsed w w') : w'.store.missing = w.store.missing := by rw [h.frame]

lemma queue (h : OnlyLapsed w w') : w'.store.queue = w.store.queue := by rw [h.frame]

lemma claims (h : OnlyLapsed w w') : w'.store.claims = w.store.claims := by rw [h.frame]

lemma sessions (h : OnlyLapsed w w') : w'.store.sessions = w.store.sessions := by rw [h.frame]

lemma sameWork (h : OnlyLapsed w w') : w.store.SameWork w'.store :=
  ⟨h.missing, h.queue, h.claims, h.sessions⟩

lemma workflow (h : OnlyLapsed w w') : w'.store.workflow = w.store.workflow := by rw [h.frame]

lemma touchpoints (h : OnlyLapsed w w') : w'.store.touchpoints = w.store.touchpoints := by
  rw [h.frame]

end OnlyLapsed

end World

namespace OverrideShelf

/-- Looking up what is kept for an issue changes nothing. -/
lemma find_cases (shelf : OverrideShelf) (issueId : String) (w : World ω) :
    shelf.find issueId w = (.ok ((shelf.kept w).find? fun o => o.issueId == issueId), w) ∨
      ∃ e, shelf.find issueId w = (.error e, w) := by
  cases shelf with
  | inProcess => exact Or.inl rfl
  | shared =>
    rcases Store.reading_cases [.overrides]
      (fun s => s.overrides.find? fun o => o.issueId == issueId) w.store with ⟨-, h⟩ | ⟨e, -, h⟩
    · refine Or.inl ?_
      rw [find, World.onStore_apply, Store.getOverride, h]
      rfl
    · refine Or.inr ⟨e, ?_⟩
      rw [find, World.onStore_apply, Store.getOverride, h]

/-- Removing an override that is over leaves everything in force as it is. -/
lemma clear_keeps_onlyLapsed (shelf : OverrideShelf) {issueId : String} {w : World ω}
    {o : Override} (hfind : (shelf.kept w).find? (fun x => x.issueId == issueId) = some o)
    (hover : o.isExpired w.clock = true) : World.OnlyLapsed w (shelf.clear issueId w).2 := by
  cases shelf with
  | inProcess =>
    refine ⟨rfl, fun shelf other => ?_⟩
    cases shelf with
    | shared => rfl
    | inProcess => exact current_of_expired hfind hover other
  | shared =>
    rw [clear, World.onStore_apply, Store.removeOverride]
    rcases Store.changing_cases [.overrides] (fun s => ((), { s with
      overrides := s.overrides.filter fun o => o.issueId != issueId })) w.store with
      ⟨-, h⟩ | ⟨e, -, h⟩
    · rw [h]
      refine ⟨rfl, fun shelf other => ?_⟩
      cases shelf with
      | shared => exact current_of_expired hfind hover other
      | inProcess => rfl
    · rw [h]
      exact refl w

/-- A shelf answers with what is in force, or fails; either way only overrides that are over may
go. -/
lemma get_cases (shelf : OverrideShelf) (issueId : String) (w : World ω) :
    ∃ w', World.OnlyLapsed w w' ∧
      (shelf.get issueId w = (.ok (shelf.inForce w issueId), w') ∨
        ∃ e, shelf.get issueId w = (.error e, w')) := by
  rw [get]
  rcases shelf.find_cases issueId w with h | ⟨e, h⟩
  · rw [Run.bind_of_ok h, inForce, current]
    rcases hfind : (shelf.kept w).find? (fun o => o.issueId == issueId) with - | o
    · rw [hfind]
      exact ⟨w, refl w, Or.inl rfl⟩
    · rw [hfind, Option.filter_some]
      dsimp only
      rw [Run.bind_of_ok (World.now_apply w)]
      by_cases hover : o.isExpired w.clock = true
      · have hlapsed := shelf.clear_keeps_onlyLapsed hfind hover
        rw [if_pos hover, hover]
        rcases hclear : shelf.clear issueId w with ⟨e | _, w'⟩ <;> rw [hclear] at hlapsed
        · exact ⟨w', hlapsed, Or.inr ⟨e, Run.bind_of_error hclear⟩⟩
        · exact ⟨w', hlapsed, Or.inl (Run.bind_of_ok hclear)⟩
      · rw [if_neg hover, Bool.eq_false_iff.2 hover]
        exact ⟨w, refl w, Or.inl rfl⟩
  · exact ⟨w, refl w, Or.inr ⟨e, Run.bind_of_error h⟩⟩

/-! ## Overrides that never expire -/

section Standing

variable {shelf : OverrideShelf} {issueId : String} {w : World ω}

/-- Overrides can be kept on a shelf: the process can do so at any time, the store if it has a table
for them. -/
def IsThere (shelf : OverrideShelf) (w : World ω) : Prop :=
  match shelf with
  | shared => w.store.Has [.overrides]
  | inProcess => True

lemma isThere_of_missing (h : w.store.missing = []) : shelf.IsThere w := by
  cases shelf with
  | inProcess => exact trivial
  | shared =>
    intro t _
    simp [h]

/-- Whatever is kept for an issue is found. -/
lemma find_of_isThere (hthere : shelf.IsThere w) (issueId : String) :
    shelf.find issueId w = (.ok ((shelf.kept w).find? fun o => o.issueId == issueId), w) := by
  cases shelf with
  | inProcess => rfl
  | shared => exact World.onStore_of_eq (Store.reading_of_has hthere _)

/-- An override that never expires is found, and stays where it is. -/
lemma get_of_standing (hthere : shelf.IsThere w) {o : Override}
    (ho : shelf.standing w issueId = some o) : shelf.get issueId w = (.ok (some o), w) := by
  unfold standing lasting at ho
  obtain ⟨hkept, hstays⟩ := Option.filter_eq_some_iff.1 ho
  have hfind : shelf.find issueId w = (.ok (some o), w) := by
    rw [find_of_isThere hthere]
    exact congrArg (fun o? => (Except.ok o?, w)) hkept
  have hvalid : o.isExpired w.clock = false := by
    unfold Override.isExpired
    rw [Option.isNone_iff_eq_none.1 hstays]
  rw [get, Run.bind_of_ok hfind]
  dsimp only
  rw [Run.bind_of_ok (World.now_apply w), hvalid]
  rfl

lemma hasDirective_of_standing (hthere : shelf.IsThere w) {o : Override}
    (ho : shelf.standing w issueId = some o) (kind : DirectiveKind) :
    shelf.hasDirective issueId kind w = (.ok (o.orders kind), w) := by
  rw [hasDirective, Run.bind_of_ok (get_of_standing hthere ho)]
  rfl

/-- An override that lasts replaces the one of its issue. -/
lemma lasting_replaced (os : List Override) {o : Override} (ho : o.expiresAt = none)
    (other : String) :
    lasting ((os.filter fun x => x.issueId != o.issueId) ++ [o]) other =
      if o.issueId = other then some o else lasting os other := by
  rw [lasting, find?_replaceKey Override.issueId]
  split
  · rw [Option.filter_some, ho]
    rfl
  · rfl

/-- An override that is removed lasts no more. -/
lemma lasting_removed (os : List Override) (issueId other : String) :
    lasting (os.filter fun x => x.issueId != issueId) other =
      if issueId = other then none else lasting os other := by
  rw [lasting, find?_filter_key Override.issueId]
  split
  · rfl
  · rfl

/-- An override that is set for good replaces the one of its issue. -/
lemma set_of_isThere (hthere : shelf.IsThere w) (issueId : String) (d : Directive) :
    ∃ w', shelf.set issueId d none w = (.ok (.ofDirective issueId d none w.clock), w') ∧
      ∀ other, shelf.standing w' other =
        if issueId = other then some (.ofDirective issueId d none w.clock)
        else shelf.standing w other := by
  let o := Override.ofDirective issueId d none w.clock
  cases shelf with
  | inProcess => exact ⟨_, rfl, lasting_replaced w.overrides (o := o) rfl⟩
  | shared =>
    let store : Store := { w.store with
      overrides := (w.store.overrides.filter fun x => x.issueId != issueId) ++ [o] }
    have hput : Store.putOverride o w.store = (.ok (), store) := Store.changing_of_has hthere _
    refine ⟨{ w with store }, ?_, lasting_replaced w.store.overrides (o := o) rfl⟩
    rw [set, Run.bind_of_ok (World.now_apply w), put, Run.bind_of_ok (World.onStore_of_eq hput)]
    rfl

/-- Without a place to keep it no override is set. -/
lemma set_of_not_isThere (hmissing : ¬ shelf.IsThere w) (issueId : String) (d : Directive)
    (lasting : Option Binary64) : ∃ e, shelf.set issueId d lasting w = (.error e, w) := by
  cases shelf with
  | inProcess => exact absurd trivial hmissing
  | shared =>
    obtain ⟨e, hput⟩ : ∃ e, Store.putOverride (.ofDirective issueId d lasting w.clock) w.store =
      (.error e, w.store) := Store.changing_of_not_has hmissing _
    refine ⟨e, ?_⟩
    rw [set, Run.bind_of_ok (World.now_apply w), put, Run.bind_of_error (World.onStore_of_eq hput)]

/-- An override that is cleared stands no more, and those of other issues do. -/
lemma clear_cases (shelf : OverrideShelf) (issueId : String) (w : World ω) :
    (∃ w', shelf.clear issueId w = (.ok (), w') ∧ ∀ other, shelf.standing w' other =
        if issueId = other then none else shelf.standing w other) ∨
      ∃ e, shelf.clear issueId w = (.error e, w) := by
  cases shelf with
  | inProcess => exact Or.inl ⟨_, rfl, lasting_removed w.overrides issueId⟩
  | shared =>
    rcases Store.changing_cases [.overrides] (fun s => ((), { s with
      overrides := s.overrides.filter fun o => o.issueId != issueId })) w.store with
      ⟨-, h⟩ | ⟨e, -, h⟩
    · exact Or.inl ⟨_, World.onStore_of_eq h, lasting_removed w.store.overrides issueId⟩
    · exact Or.inr ⟨e, World.onStore_of_eq h⟩

end Standing

end OverrideShelf

end IssueDispatch
