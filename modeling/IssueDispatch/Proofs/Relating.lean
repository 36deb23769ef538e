import IssueDispatch.Overrides
import IssueDispatch.Proofs.Store.Transactions
import IssueDispatch.Store.Events

/-!
# Computations in related states

What a computation does not look at makes no difference to it.  `Run.Respects R x` says this about a
computation `x` and a relation `R` of states, by comparing two of its runs: if they begin in related
states they end with the same result or the same fault, and in related states again.  Like
`Run.Keeps` it passes from the parts of a computation to the whole, here for every relation and not
only for preorders.

The relations below are about stores.  `World.Alike R` relates two worlds that differ in nothing but
their stores, and these by `R`.
-/

namespace IssueDispatch

namespace Run

variable {σ α β : Type} {R : σ → σ → Prop}

/-- From related states a computation gives the same result and leads to related states. -/
def Respects (R : σ → σ → Prop) (x : Run σ α) : Prop :=
  ∀ s s', R s s' → (x s').1 = (x s).1 ∧ R (x s).2 (x s').2

namespace Respects

lemma of_apply_eq {x : Run σ α} {f : σ → Except Fault α} (hx : ∀ s, x s = (f s, s))
    (hf : ∀ s s', R s s' → f s' = f s) : x.Respects R := by
  intro s s' h
  rw [hx, hx]
  exact ⟨hf s s' h, h⟩

lemma pure (a : α) : (pure a : Run σ α).Respects R := of_apply_eq (fun _ => rfl) fun _ _ _ => rfl

lemma throw (e : Fault) : (throw e : Run σ α).Respects R :=
  of_apply_eq (fun _ => rfl) fun _ _ _ => rfl

lemma ofExcept (r : Except Fault α) : (Run.ofExcept r : Run σ α).Respects R :=
  of_apply_eq (fun _ => rfl) fun _ _ _ => rfl

/-- Reading a part of the state in which related states agree. -/
lemma read {f : σ → α} (hf : ∀ s s', R s s' → f s' = f s) :
    (do return f (← get) : Run σ α).Respects R :=
  of_apply_eq (f := fun s => .ok (f s)) (fun _ => rfl) fun s s' h => congrArg _ (hf s s' h)

lemma modify {f : σ → σ} (hf : ∀ s s', R s s' → R (f s) (f s')) :
    (modify f : Run σ Unit).Respects R :=
  fun s s' h => ⟨rfl, hf s s' h⟩

lemma bind {x : Run σ α} {f : α → Run σ β} (hx : x.Respects R) (hf : ∀ a, (f a).Respects R) :
    (x >>= f).Respects R := by
  intro s s' h
  obtain ⟨hresult, hstates⟩ := hx s s' h
  rw [bind_apply, bind_apply]
  rcases hs : x s with ⟨r, t⟩
  rcases hs' : x s' with ⟨r', t'⟩
  rw [hs, hs'] at hresult hstates
  subst hresult
  cases r' with
  | error e => exact ⟨rfl, hstates⟩
  | ok a => exact hf a t t' hstates

/-- A computation may go on with the state, if related states make it go on alike. -/
lemma get_bind {k : σ → Run σ α} (hsame : ∀ s s', R s s' → k s' = k s)
    (hk : ∀ s, (k s).Respects R) : (get >>= k).Respects R := by
  intro s s' h
  rw [bind_of_ok (get_apply s), bind_of_ok (get_apply s'), hsame s s' h]
  exact hk s s s' h

lemma attempt {x : Run σ α} (hx : x.Respects R) : (Run.attempt x).Respects R := by
  intro s s' h
  obtain ⟨hresult, hstates⟩ := hx s s' h
  exact ⟨congrArg Except.ok hresult, hstates⟩

lemma ite {c : Prop} [Decidable c] {x y : Run σ α} (hx : x.Respects R) (hy : y.Respects R) :
    (if c then x else y).Respects R := by
  split
  · exact hx
  · exact hy

lemma mapM {f : α → Run σ β} (hf : ∀ a, (f a).Respects R) (as : List α) :
    (as.mapM f).Respects R := by
  induction as with
  | nil => exact pure []
  | cons a as ih =>
    rw [List.mapM_cons]
    exact (hf a).bind fun b => ih.bind fun bs => pure (b :: bs)

end Respects

end Run

namespace Transaction

variable {σ α β : Type} {R : σ → σ → Prop}

/-- From related states a transaction fails alike, or gives the same result and leads to related
states. -/
def Respects (R : σ → σ → Prop) (t : Transaction σ α) : Prop :=
  ∀ s s', R s s' → (∃ e, t s = .error e ∧ t s' = .error e) ∨
    ∃ a u u', t s = .ok (a, u) ∧ t s' = .ok (a, u') ∧ R u u'

namespace Respects

lemma pure (a : α) : (pure a : Transaction σ α).Respects R :=
  fun s s' h => Or.inr ⟨a, s, s', rfl, rfl, h⟩

lemma throw (e : Fault) : (throw e : Transaction σ α).Respects R :=
  fun _ _ _ => Or.inl ⟨e, rfl, rfl⟩

lemma modify {f : σ → σ} (hf : ∀ s s', R s s' → R (f s) (f s')) :
    (modify f : Transaction σ Unit).Respects R :=
  fun s s' h => Or.inr ⟨(), f s, f s', rfl, rfl, hf s s' h⟩

lemma modifyGet {f : σ → α × σ} (hf : ∀ s s', R s s' → (f s').1 = (f s).1 ∧ R (f s).2 (f s').2) :
    (modifyGet f : Transaction σ α).Respects R := by
  intro s s' h
  obtain ⟨hresult, hstates⟩ := hf s s' h
  refine Or.inr ⟨(f s).1, (f s).2, (f s').2, rfl, ?_, hstates⟩
  rw [← hresult]
  rfl

lemma bind {t : Transaction σ α} {f : α → Transaction σ β} (ht : t.Respects R)
    (hf : ∀ a, (f a).Respects R) : (t >>= f).Respects R := by
  intro s s' h
  rcases ht s s' h with ⟨e, hs, hs'⟩ | ⟨a, u, u', hs, hs', hstates⟩
  · exact Or.inl ⟨e, bind_of_error hs, bind_of_error hs'⟩
  · rw [bind_of_ok hs, bind_of_ok hs']
    exact hf a u u' hstates

/-- A transaction may go on with the state, if related states make it go on alike. -/
lemma get_bind {k : σ → Transaction σ α} (hsame : ∀ s s', R s s' → k s' = k s)
    (hk : ∀ s, (k s).Respects R) : (get >>= k).Respects R := by
  intro s s' h
  rw [bind_of_ok (get_apply s), bind_of_ok (get_apply s'), hsame s s' h]
  exact hk s s s' h

lemma ite {c : Prop} [Decidable c] {t u : Transaction σ α} (ht : t.Respects R)
    (hu : u.Respects R) : (if c then t else u).Respects R := by
  split
  · exact ht
  · exact hu

lemma atomically {t : Transaction σ α} (ht : t.Respects R) : (Run.atomically t).Respects R := by
  intro s s' h
  rcases ht s s' h with ⟨e, hs, hs'⟩ | ⟨a, u, u', hs, hs', hstates⟩
  · rw [Run.atomically_error hs, Run.atomically_error hs']
    exact ⟨rfl, h⟩
  · rw [Run.atomically_ok hs, Run.atomically_ok hs']
    exact ⟨rfl, hstates⟩

end Respects

end Transaction

/-! ## Stores -/

namespace Store

variable {α : Type} {R : Store → Store → Prop}

lemma requireInteger_respects (n : Int) : (requireInteger n).Respects R :=
  .ite (.pure ()) (.throw _)

section Tables

variable (htables : ∀ s s', R s s' → s'.missing = s.missing)

include htables

lemma requireTable_respects (t : Table) : (requireTable t).Respects R := by
  intro s s' h
  unfold requireTable
  rw [htables s s' h]
  split
  · exact Or.inl ⟨_, rfl, rfl⟩
  · exact Or.inr ⟨(), s, s', rfl, rfl, h⟩

lemma requireTables_respects (ts : List Table) : (requireTables ts).Respects R := by
  induction ts with
  | nil => exact .pure ()
  | cons t ts ih => exact (requireTable_respects htables t).bind fun _ => ih

lemma reading_respects (ts : List Table) {f : Store → α} (hf : ∀ s s', R s s' → f s' = f s) :
    (reading ts f).Respects R :=
  Transaction.Respects.atomically <| (requireTables_respects htables ts).bind fun _ =>
    .get_bind (fun s s' h => congrArg Pure.pure (hf s s' h)) fun s => .pure (f s)

lemma changing_respects (ts : List Table) {f : Store → α × Store}
    (hf : ∀ s s', R s s' → (f s').1 = (f s).1 ∧ R (f s).2 (f s').2) :
    (changing ts f).Respects R :=
  Transaction.Respects.atomically <| (requireTables_respects htables ts).bind fun _ => .modifyGet hf

end Tables

/-- Publishing an event refuses its payload or adds a row. -/
lemma publishEvent_respects {e : Event} {now : Binary64}
    (h : (addPayload (some e.toValue) now).Respects R) : (publishEvent e now).Respects R := by
  unfold publishEvent
  split
  · exact Run.Respects.throw _
  · exact h

/-- Related stores show the same events, and are as good as each other for what an event-driven
governor asks of them. -/
structure EventsRespect (R : Store → Store → Prop) : Prop where
  events : ∀ s s', R s s' → s'.events = s.events
  publish : ∀ e now, (Store.publishEvent e now).Respects R
  deliver : ∀ visibility now, (Store.deliverNext visibility now).Respects R
  ack : ∀ id now, (Store.ackEvent id now).Respects R
  seen : ∀ key window now, (Store.seen key window now).Respects R

end Store

/-! ## Worlds -/

variable {ω α : Type}

/-- Two worlds differ in nothing but their stores, and these are related. -/
structure World.Alike (R : Store → Store → Prop) (w w' : World ω) : Prop where
  store : R w.store w'.store
  frame : w' = { w with store := w'.store }

namespace World

variable {R : Store → Store → Prop}

lemma now_respects : (now : Run (World ω) Binary64).Respects (Alike R) :=
  .read fun _ _ h => by rw [h.frame]

lemma onStore_respects {x : Run Store α} (hx : x.Respects R) :
    (onStore x : Run (World ω) α).Respects (Alike R) := by
  intro w w' h
  obtain ⟨hresult, hstores⟩ := hx w.store w'.store h.store
  refine ⟨hresult, hstores, ?_⟩
  rw [onStore_apply, onStore_apply, h.frame]

lemma onStoreNow_respects {x : Binary64 → Run Store α} (hx : ∀ now, (x now).Respects R) :
    (onStoreNow x : Run (World ω) α).Respects (Alike R) :=
  now_respects.bind fun now => onStore_respects (hx now)

/-- A change of something beside the store makes no difference to what the stores are like. -/
lemma modify_respects {f : World ω → World ω} (hf : ∀ w s, f { w with store := s } =
      { f w with store := s }) (hstore : ∀ w, (f w).store = w.store) :
    (modify f : Run (World ω) Unit).Respects (Alike R) := by
  refine .modify fun w w' h => ⟨?_, ?_⟩
  · rw [hstore, hstore]
    exact h.store
  · rw [h.frame, hf]

end World

namespace OverrideShelf

variable {R : Store → Store → Prop} {shelf : OverrideShelf} {issueId : String}

lemma find_respects (hfind : (Store.getOverride issueId).Respects R) :
    (shelf.find issueId : Run (World ω) _).Respects (World.Alike R) := by
  cases shelf with
  | shared => exact World.onStore_respects hfind
  | inProcess => exact .read fun w w' h => by rw [h.frame]

lemma clear_respects (hremove : (Store.removeOverride issueId).Respects R) :
    (shelf.clear issueId : Run (World ω) _).Respects (World.Alike R) := by
  cases shelf with
  | shared => exact World.onStore_respects hremove
  | inProcess => exact World.modify_respects (fun _ _ => rfl) fun _ => rfl

/-- Putting a directive in force is as good from one store as from another. -/
lemma set_respects (hput : ∀ o, (Store.putOverride o).Respects R) (d : Directive)
    (lasting : Option Binary64) :
    (shelf.set issueId d lasting : Run (World ω) _).Respects (World.Alike R) := by
  refine World.now_respects.bind fun now => Run.Respects.bind ?_ fun _ => .pure _
  cases shelf with
  | shared => exact World.onStore_respects (hput _)
  | inProcess => exact World.modify_respects (fun _ _ => rfl) fun _ => rfl

section Reading

variable {S : World ω → World ω → Prop}

/-- Asking what is in force may remove an override whose time is over. -/
lemma get_respects (hnow : (World.now : Run (World ω) _).Respects S)
    (hfind : (shelf.find issueId).Respects S) (hclear : (shelf.clear issueId).Respects S) :
    (shelf.get issueId).Respects S := by
  refine hfind.bind fun o? => ?_
  rcases o? with - | o
  · exact .pure none
  · exact hnow.bind fun _ => .ite (hclear.bind fun _ => .pure none) (.pure _)

variable (hget : (shelf.get issueId).Respects S)

include hget

lemma hasDirective_respects (kind : DirectiveKind) :
    (shelf.hasDirective issueId kind).Respects S :=
  hget.bind fun _ => .pure _

lemma priority_respects : (shelf.priority issueId).Respects S := hget.bind fun _ => .pure _

end Reading

end OverrideShelf

end IssueDispatch
