/-!
# Strategies

Every time an issue fails quality assurance its count of failed cycles goes up by one, and the count
alone says which strategy is called for: `Strategy.forCycles`.  A stored strategy may also be a name
that is none of the four; it is kept as it is and calls for nothing.
-/

namespace IssueDispatch

/-- How the work on an issue is approached after its failed cycles. -/
inductive Strategy where
  | normal
  | contextEnriched
  | decompose
  | escalateHuman
  | other (name : String)
deriving DecidableEq, Repr

namespace Strategy

/-- The name of a strategy. -/
def name : Strategy → String
  | normal => "normal"
  | contextEnriched => "context-enriched"
  | decompose => "decompose"
  | escalateHuman => "escalate-human"
  | other name => name

/-- The strategy of a name. -/
def ofName (name : String) : Strategy :=
  if name = "normal" then normal
  else if name = "context-enriched" then contextEnriched
  else if name = "decompose" then decompose
  else if name = "escalate-human" then escalateHuman
  else other name

@[simp] theorem name_ofName (s : String) : (ofName s).name = s := by
  unfold ofName
  repeat' split
  all_goals simp_all [name]

/-- The strategy that a count of failed cycles calls for. -/
def forCycles (count : Int) : Strategy :=
  if count ≤ 0 then normal
  else if count ≤ 2 then contextEnriched
  else if count = 3 then decompose
  else escalateHuman

/-- Four failed cycles or more call for a human. -/
theorem forCycles_of_le {count : Int} (h : 4 ≤ count) : forCycles count = escalateHuman := by
  unfold forCycles
  rw [if_neg (by omega), if_neg (by omega), if_neg (by omega)]

/-- How far an issue has been escalated: 0 for the normal strategy, 3 for a human. -/
def rank : Strategy → Nat
  | normal | other _ => 0
  | contextEnriched => 1
  | decompose => 2
  | escalateHuman => 3

/-- More failed cycles never call for a lower strategy. -/
theorem rank_forCycles_mono {m n : Int} (h : m ≤ n) :
    (forCycles m).rank ≤ (forCycles n).rank := by
  unfold forCycles
  split <;> split <;> (try split) <;> (try split) <;> (try split) <;> (try split) <;>
    simp only [rank] <;> omega

end Strategy

end IssueDispatch
