/-!
# Powers

Powers of two bound the numbers of a format, and powers of ten shift the point of a decimal.
-/

namespace IssueDispatch

/-- A power of two. -/
def twoPow (n : Nat) : Nat := Nat.pow 2 n

/-- A power of ten. -/
def tenPow (n : Nat) : Nat := Nat.pow 10 n

theorem twoPow_succ (n : Nat) : twoPow (n + 1) = twoPow n * 2 := rfl

theorem tenPow_succ (n : Nat) : tenPow (n + 1) = tenPow n * 10 := rfl

theorem twoPow_pos (n : Nat) : 0 < twoPow n := by
  induction n with
  | zero => exact Nat.one_pos
  | succ n ih => rw [twoPow_succ]; omega

theorem tenPow_pos (n : Nat) : 0 < tenPow n := by
  induction n with
  | zero => exact Nat.one_pos
  | succ n ih => rw [tenPow_succ]; omega

end IssueDispatch
