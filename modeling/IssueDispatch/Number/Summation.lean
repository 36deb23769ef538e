import IssueDispatch.Number.Binary64

/-!
# Sums of many numbers

A `RunningSum` adds up binary64 numbers one after the other.  Beside the rounded sum it keeps what
the roundings have lost so far, and `RunningSum.total` puts the loss back at the end, so that a long
sum is hardly less exact than a short one.
-/

namespace IssueDispatch

namespace Binary64

/-- The number without its sign. -/
def abs (a : Binary64) : Binary64 := if a.isNegative then -a else a

end Binary64

/-- A sum under way. -/
structure RunningSum where
  sum : Binary64 := 0
  lost : Binary64 := 0
deriving DecidableEq

namespace RunningSum

/-- What the rounding of the sum of two numbers has lost.  The smaller one is taken from the
difference last, because the larger one and the sum are close to each other. -/
def loss (a b : Binary64) : Binary64 :=
  if b.abs < a.abs then (a - (a + b)) + b else (b - (a + b)) + a

/-- Adds a number. -/
def add (s : RunningSum) (x : Binary64) : RunningSum := ⟨s.sum + x, s.lost + loss s.sum x⟩

/-- The sum with what has been lost; a loss that is no finite number is left out. -/
def total (s : RunningSum) : Binary64 := if s.lost.isFinite then s.sum + s.lost else s.sum

end RunningSum

/-- The sum of some numbers. -/
def Binary64.sum (xs : List Binary64) : Binary64 := (xs.foldl RunningSum.add {}).total

@[simp] theorem Binary64.sum_nil : Binary64.sum [] = 0 := by decide

end IssueDispatch
