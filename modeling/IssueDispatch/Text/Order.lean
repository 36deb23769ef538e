/-!
# The order of texts

Texts are ordered by code point, character by character; this is the order `sorted` puts them in.
`contains` looks for one text inside another.
-/

namespace IssueDispatch.Text

/-- Sorts texts by code point, keeping equal ones next to each other. -/
def sorted (names : List String) : List String := names.mergeSort fun a b => !decide (b < a)

/-- Sorts texts by code point and drops repetitions. -/
def sortedSet (names : List String) : List String := (sorted names).eraseDups

/-- Whether one list of characters is a contiguous part of another. -/
def hasInfix (part : List Char) : List Char → Bool
  | [] => part.isEmpty
  | c :: cs => part.isPrefixOf (c :: cs) || hasInfix part cs

theorem hasInfix_iff {part cs : List Char} : hasInfix part cs = true ↔ part <:+: cs := by
  induction cs with
  | nil => simp [hasInfix, List.isEmpty_iff]
  | cons c cs ih => simp [hasInfix, List.infix_cons_iff, ih]

/-- Whether a text contains another one, character for character. -/
def contains (text part : String) : Bool := hasInfix part.toList text.toList

end IssueDispatch.Text
