import IssueDispatch.Run
import IssueDispatch.World
import Mathlib.Order.Defs.Unbundled
import Mathlib.Tactic.Lemma

/-!
# What computations do to a state

A computation is a function from a state to a result and a state, and the lemmas of the first
section evaluate it at a state, one construct at a time.  A computation that ends with a fault has
done everything up to it, so a property of its effect has to hold on both ways out.

`Run.Keeps R x` says that `x` leads from any state to one that is related to it by `R`, whether it
ends with a result or with a fault.  For a preorder `R` this passes from the parts of a computation
to the whole, and it is the form in which frames, invariants of one step and paths of a transition
system are stated for the computations of a governor.
-/

namespace IssueDispatch

/-! ## Evaluation at a state -/

namespace Transaction

variable {σ α β : Type}

@[simp] lemma pure_apply (a : α) (s : σ) : (pure a : Transaction σ α) s = .ok (a, s) := rfl

@[simp] lemma throw_apply (e : Fault) (s : σ) : (throw e : Transaction σ α) s = .error e := rfl

@[simp] lemma get_apply (s : σ) : (get : Transaction σ σ) s = .ok (s, s) := rfl

@[simp] lemma modify_apply (f : σ → σ) (s : σ) :
    (modify f : Transaction σ Unit) s = .ok ((), f s) := rfl

@[simp] lemma modifyGet_apply (f : σ → α × σ) (s : σ) :
    (modifyGet f : Transaction σ α) s = .ok (f s) := rfl

/-- A transaction goes on after its first part exactly if that part succeeds. -/
lemma bind_apply (t : Transaction σ α) (f : α → Transaction σ β) (s : σ) :
    (t >>= f) s = match t s with
      | .ok (a, s) => f a s
      | .error e => .error e := by
  change Except.bind (t s) _ = _
  rcases t s with _ | ⟨_, _⟩ <;> rfl

lemma bind_of_ok {t : Transaction σ α} {f : α → Transaction σ β} {s s' : σ} {a : α}
    (h : t s = .ok (a, s')) : (t >>= f) s = f a s' := by
  rw [bind_apply, h]

lemma bind_of_error {t : Transaction σ α} {f : α → Transaction σ β} {s : σ} {e : Fault}
    (h : t s = .error e) : (t >>= f) s = .error e := by
  rw [bind_apply, h]

end Transaction

namespace Run

variable {σ α β : Type}

@[simp] lemma pure_apply (a : α) (s : σ) : (pure a : Run σ α) s = (.ok a, s) := rfl

@[simp] lemma throw_apply (e : Fault) (s : σ) : (throw e : Run σ α) s = (.error e, s) := rfl

@[simp] lemma get_apply (s : σ) : (get : Run σ σ) s = (.ok s, s) := rfl

@[simp] lemma modify_apply (f : σ → σ) (s : σ) : (modify f : Run σ Unit) s = (.ok (), f s) := rfl

@[simp] lemma ofExcept_apply (r : Except Fault α) (s : σ) : ofExcept r s = (r, s) := rfl

/-- A computation goes on after its first part exactly if that part gives a result. -/
lemma bind_apply (x : Run σ α) (f : α → Run σ β) (s : σ) :
    (x >>= f) s = match x s with
      | (.ok a, t) => f a t
      | (.error e, t) => (.error e, t) := by
  change (ExceptT.bindCont f (x s).1) (x s).2 = _
  rcases x s with ⟨_ | _, _⟩ <;> rfl

lemma bind_of_ok {x : Run σ α} {f : α → Run σ β} {s t : σ} {a : α} (h : x s = (.ok a, t)) :
    (x >>= f) s = f a t := by
  rw [bind_apply, h]

lemma bind_of_error {x : Run σ α} {f : α → Run σ β} {s t : σ} {e : Fault}
    (h : x s = (.error e, t)) : (x >>= f) s = (.error e, t) := by
  rw [bind_apply, h]

/-- The way to a result leads through a result of the first part. -/
lemma exists_of_bind_eq_ok {x : Run σ α} {f : α → Run σ β} {s u : σ} {b : β}
    (h : (x >>= f) s = (.ok b, u)) : ∃ a t, x s = (.ok a, t) ∧ f a t = (.ok b, u) := by
  rw [bind_apply] at h
  rcases hx : x s with ⟨e | a, t⟩ <;> rw [hx] at h
  · exact nomatch (Prod.mk.inj h).1
  · exact ⟨a, t, rfl, h⟩

/-- Computations one after the other go on from where the first one leads, if it gives a result. -/
lemma mapM_cons_apply {f : α → Run σ β} {a : α} {b : β} {s t : σ} (h : f a s = (.ok b, t))
    (as : List α) :
    (a :: as).mapM f s = ((as.mapM f t).1.map (b :: ·), (as.mapM f t).2) := by
  rw [List.mapM_cons, bind_of_ok h, bind_apply]
  rcases as.mapM f t with ⟨e | bs, u⟩ <;> rfl

/-- Computations one after the other give a result if the first one does and the others do so from
where it leads. -/
lemma mapM_cons_of_ok {f : α → Run σ β} {a : α} {as : List α} {b : β} {bs : List β} {s t : σ}
    (h : f a s = (.ok b, t)) (hrest : (as.mapM f t).1 = .ok bs) :
    ((a :: as).mapM f s).1 = .ok (b :: bs) := by
  rw [mapM_cons_apply h, hrest]
  rfl

/-- Each result of computations one after the other is that of one of them, which starts where those
before it have led. -/
lemma exists_of_mem_mapM {f : α → Run σ β} {as : List α} {bs : List β} {s u : σ}
    (h : as.mapM f s = (.ok bs, u)) {b : β} (hb : b ∈ bs) :
    ∃ a ∈ as, ∃ (before : List α) (t t' : σ), (before.mapM f s).2 = t ∧ f a t = (.ok b, t') := by
  induction as generalizing bs s u with
  | nil =>
    rw [List.mapM_nil, pure_apply] at h
    obtain rfl := Except.ok.inj (Prod.mk.inj h).1
    cases hb
  | cons a as ih =>
    rw [List.mapM_cons] at h
    obtain ⟨c, t, hfirst, h⟩ := exists_of_bind_eq_ok h
    obtain ⟨cs, t', hrest, h⟩ := exists_of_bind_eq_ok h
    obtain rfl := Except.ok.inj (Prod.mk.inj h).1
    rcases List.mem_cons.1 hb with rfl | hb
    · exact ⟨a, List.mem_cons_self, [], s, t, rfl, hfirst⟩
    · obtain ⟨a', ha', before, t, t', ht, hresult⟩ := ih hrest hb
      refine ⟨a', List.mem_cons_of_mem a ha', a :: before, t, t', ?_, hresult⟩
      rw [mapM_cons_apply hfirst, ht]

/-! ## Relations that a computation keeps -/

/-- From any state a computation leads to a related one, whether it ends with a result or with a
fault. -/
def Keeps (R : σ → σ → Prop) (x : Run σ α) : Prop := ∀ s, R s (x s).2

namespace Keeps

variable {R : σ → σ → Prop}

lemma of_apply_eq {x : Run σ α} {s t : σ} {r : Except Fault α} (hx : x.Keeps R)
    (h : x s = (r, t)) : R s t := by
  have := hx s
  rwa [h] at this

/-- What keeps a relation keeps every weaker one. -/
lemma mono {S : σ → σ → Prop} {x : Run σ α} (hx : x.Keeps R) (h : ∀ s t, R s t → S s t) :
    x.Keeps S := fun s => h _ _ (hx s)

lemma attempt {x : Run σ α} (hx : x.Keeps R) : (Run.attempt x).Keeps R := fun s => hx s

lemma ite {c : Prop} [Decidable c] {x y : Run σ α} (hx : x.Keeps R) (hy : y.Keeps R) :
    (if c then x else y).Keeps R := by
  split
  · exact hx
  · exact hy

section Preorder

variable [IsPreorder σ R]

lemma of_eq {x : Run σ α} (h : ∀ s, (x s).2 = s) : x.Keeps R := fun s => by
  rw [h]
  exact refl s

lemma pure (a : α) : (pure a : Run σ α).Keeps R := of_eq fun _ => rfl

lemma throw (e : Fault) : (throw e : Run σ α).Keeps R := of_eq fun _ => rfl

lemma ofExcept (r : Except Fault α) : (Run.ofExcept r : Run σ α).Keeps R := of_eq fun _ => rfl

lemma bind {x : Run σ α} {f : α → Run σ β} (hx : x.Keeps R) (hf : ∀ a, (f a).Keeps R) :
    (x >>= f).Keeps R := by
  intro s
  rw [bind_apply]
  have hs := hx s
  rcases h : x s with ⟨e | a, t⟩ <;> rw [h] at hs
  · exact hs
  · exact trans_of R hs (hf a t)

lemma mapM {f : α → Run σ β} {as : List α} (hf : ∀ a ∈ as, (f a).Keeps R) :
    (as.mapM f).Keeps R := by
  induction as with
  | nil => exact pure []
  | cons a as ih =>
    obtain ⟨ha, has⟩ := List.forall_mem_cons.1 hf
    rw [List.mapM_cons]
    exact ha.bind fun b => (ih has).bind fun bs => pure (b :: bs)

end Preorder

/-- A relation that comes from two others is kept by computations that keep them one after the
other. -/
lemma bind_of_trans {S T : σ → σ → Prop} (htrans : ∀ {s t u}, R s t → S t u → T s u)
    (hleft : ∀ {s t}, R s t → T s t) {x : Run σ α} {f : α → Run σ β} (hx : x.Keeps R)
    (hf : ∀ a, (f a).Keeps S) : (x >>= f).Keeps T := by
  intro s
  rw [bind_apply]
  have hs := hx s
  rcases h : x s with ⟨e | a, t⟩ <;> rw [h] at hs
  · exact hleft hs
  · exact htrans hs (hf a t)

end Keeps

end Run

namespace Transaction

variable {σ α β : Type} {R : σ → σ → Prop}

/-- From any state a transaction leads to a related one, if it succeeds. -/
def Keeps (R : σ → σ → Prop) (t : Transaction σ α) : Prop := ∀ s a s', t s = .ok (a, s') → R s s'

lemma modify_keeps {f : σ → σ} (hf : ∀ s, R s (f s)) : (modify f : Transaction σ Unit).Keeps R := by
  intro s a s' h
  rw [modify_apply] at h
  obtain ⟨-, rfl⟩ := Prod.mk.inj (Except.ok.inj h)
  exact hf s

lemma modifyGet_keeps {f : σ → α × σ} (hf : ∀ s, R s (f s).2) :
    (modifyGet f : Transaction σ α).Keeps R := by
  intro s a s' h
  rw [modifyGet_apply] at h
  have hs : (f s).2 = s' := congrArg Prod.snd (Except.ok.inj h)
  exact hs ▸ hf s

lemma Keeps.pure [IsPreorder σ R] (a : α) : (pure a : Transaction σ α).Keeps R := by
  intro s b s' h
  rw [pure_apply] at h
  obtain ⟨-, rfl⟩ := Prod.mk.inj (Except.ok.inj h)
  exact refl s

lemma Keeps.bind [IsPreorder σ R] {t : Transaction σ α} {f : α → Transaction σ β} (ht : t.Keeps R)
    (hf : ∀ a, (f a).Keeps R) : (t >>= f).Keeps R := by
  intro s b s' h
  rw [bind_apply] at h
  rcases hs : t s with e | ⟨a, v⟩ <;> rw [hs] at h
  · cases h
  · exact trans_of R (ht s a v hs) (hf a v b s' h)

/-- A transaction that only checks something keeps everything. -/
lemma Keeps.of_eq [IsPreorder σ R] {t : Transaction σ α}
    (ht : ∀ s a s', t s = .ok (a, s') → s' = s) : t.Keeps R := by
  intro s a s' h
  rw [ht s a s' h]
  exact refl s

/-- A transaction that goes on only if a condition is met keeps what comes after it. -/
lemma Keeps.after {t : Transaction σ Unit} {u : Transaction σ α} (hu : u.Keeps R)
    (ht : ∀ s a s', t s = .ok (a, s') → s' = s) : (t >>= fun _ => u).Keeps R := by
  intro s a s' h
  rw [bind_apply] at h
  rcases hs : t s with e | ⟨b, v⟩ <;> rw [hs] at h
  · cases h
  · rw [ht s b v hs] at h
    exact hu s a s' h

/-- A transaction that fails changes nothing. -/
lemma Keeps.atomically [IsPreorder σ R] {t : Transaction σ α} (ht : t.Keeps R) :
    (Run.atomically t).Keeps R := by
  intro s
  rcases h : t s with e | ⟨a, s'⟩
  · rw [Run.atomically_error h]
    exact refl s
  · rw [Run.atomically_ok h]
    exact ht s a s' h

end Transaction

namespace World

variable {ω α : Type}

@[simp] lemma now_apply (w : World ω) : now w = (.ok w.clock, w) := rfl

@[simp] lemma onStore_apply (x : Run Store α) (w : World ω) :
    onStore x w = ((x w.store).1, { w with store := (x w.store).2 }) := rfl

@[simp] lemma onStoreNow_apply (x : Binary64 → Run Store α) (w : World ω) :
    onStoreNow x w = ((x w.clock w.store).1, { w with store := (x w.clock w.store).2 }) := rfl

lemma onStore_of_eq {x : Run Store α} {w : World ω} {r : Except Fault α} {s : Store}
    (h : x w.store = (r, s)) : onStore x w = (r, { w with store := s }) := by
  rw [onStore_apply, h]

lemma onStoreNow_of_eq {x : Binary64 → Run Store α} {w : World ω} {r : Except Fault α} {s : Store}
    (h : x w.clock w.store = (r, s)) : onStoreNow x w = (r, { w with store := s }) := by
  rw [onStoreNow_apply, h]

end World

end IssueDispatch
