import IssueDispatch.Fault

/-!
# Computations that may fail

A `Run σ α` works on a state `σ` and ends with a result or with a fault; in either case it leaves a
state behind, so that what was done before a fault stays done.  A `Transaction σ α` is all or
nothing: when it ends with a fault there is no new state at all.  `Run.atomically` makes a
computation of a transaction, and `Run.attempt` gives the fault of a computation as a result.
-/

namespace IssueDispatch

/-- A computation on a state, which keeps what it did before a fault. -/
abbrev Run (σ : Type) := ExceptT Fault (StateM σ)

/-- A computation on a state that is all or nothing. -/
abbrev Transaction (σ : Type) := StateT σ (Except Fault)

namespace Run

variable {σ τ α : Type}

/-- Runs a transaction; a fault leaves the state as it was. -/
def atomically (t : Transaction σ α) : Run σ α := fun s =>
  match t s with
  | .ok (a, s) => (.ok a, s)
  | .error fault => (.error fault, s)

/-- Runs a computation to its end and gives its result or its fault. -/
def attempt (x : Run σ α) : Run σ (Except Fault α) := fun s =>
  let (r, s) := x s
  (.ok r, s)

/-- Goes on with a result or a fault that has been found before. -/
def ofExcept (r : Except Fault α) : Run σ α := fun s => (r, s)

/-- Runs a computation on a part of the state. -/
def onPart (read : σ → τ) (write : τ → σ → σ) (x : Run τ α) : Run σ α := fun s =>
  let (r, t) := x (read s)
  (r, write t s)

theorem atomically_error {t : Transaction σ α} {s : σ} {fault : Fault} (h : t s = .error fault) :
    atomically t s = (.error fault, s) := by
  simp [atomically, h]

theorem atomically_ok {t : Transaction σ α} {s s' : σ} {a : α} (h : t s = .ok (a, s')) :
    atomically t s = (.ok a, s') := by
  simp [atomically, h]

/-- A transaction that ends with a fault changes nothing. -/
theorem eq_of_atomically_error {t : Transaction σ α} {s s' : σ} {fault : Fault}
    (h : atomically t s = (.error fault, s')) : s' = s := by
  unfold atomically at h
  split at h
  · exact nomatch (Prod.mk.inj h).1
  · exact (Prod.mk.inj h).2.symm

@[simp] theorem attempt_apply (x : Run σ α) (s : σ) : attempt x s = (.ok (x s).1, (x s).2) := rfl

end Run

end IssueDispatch
