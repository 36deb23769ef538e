import IssueDispatch.Issue
import IssueDispatch.Text.Blank

/-!
# Directives

A human steers the work on an issue by comments.  A directive is the first line of a comment that
is not blank, in any case:

* `HOLD`, or `HOLD - reason` with a hyphen, an en dash or an em dash, pauses the work;
* `RESUME` clears what was ordered before and starts the escalation afresh;
* `SKIP QA` or `SKIP-QA` goes straight to acceptance;
* `DECOMPOSE` breaks the issue into sub-issues;
* `REASSIGN` hands the issue to a human;
* `PRIORITY: high`, `medium` or `low` moves the issue in the queue.

Any other line is no directive, and never an error.  `Directive.ofComment?` reads a comment,
`Directive.latest?` finds the directive in force among several.
-/

namespace IssueDispatch

/-- What a directive orders.  Stored directives may carry a name that orders nothing. -/
inductive DirectiveKind where
  | hold
  | resume
  | skipQa
  | decompose
  | reassign
  | priority
  | other (name : String)
deriving DecidableEq, Repr

namespace DirectiveKind

/-- The name of a kind. -/
def name : DirectiveKind → String
  | hold => "hold"
  | resume => "resume"
  | skipQa => "skip-qa"
  | decompose => "decompose"
  | reassign => "reassign"
  | priority => "priority"
  | other name => name

/-- The kind of a name. -/
def ofName (name : String) : DirectiveKind :=
  if name = "hold" then hold
  else if name = "resume" then resume
  else if name = "skip-qa" then skipQa
  else if name = "decompose" then decompose
  else if name = "reassign" then reassign
  else if name = "priority" then priority
  else other name

@[simp] theorem name_ofName (s : String) : (ofName s).name = s := by
  unfold ofName
  repeat' split
  all_goals simp_all [name]

end DirectiveKind

/-- The priority a human gives to an issue.  A name that is none of the three ranks last. -/
inductive OverridePriority where
  | high
  | medium
  | low
  | other (name : String)
deriving DecidableEq, Repr

namespace OverridePriority

/-- The name of a priority. -/
def name : OverridePriority → String
  | high => "high"
  | medium => "medium"
  | low => "low"
  | other name => name

/-- The priority of a name. -/
def ofName (name : String) : OverridePriority :=
  if name = "high" then high
  else if name = "medium" then medium
  else if name = "low" then low
  else other name

@[simp] theorem name_ofName (s : String) : (ofName s).name = s := by
  unfold ofName
  repeat' split
  all_goals simp_all [name]

/-- The rank of an optional priority: the lower, the sooner. -/
def rank : Option OverridePriority → Nat
  | some high => 0
  | some medium => 1
  | some low => 2
  | some (other _) | none => 3

theorem rank_le (p : Option OverridePriority) : rank p ≤ 3 := by
  unfold rank; split <;> omega

end OverridePriority

/-- A directive with its reason and origin. -/
structure Directive where
  kind : DirectiveKind
  priority : Option OverridePriority := none
  reason : Option String := none
  commentId : Option String := none
  userId : Option String := none
  timestamp : Binary64 := 0
deriving DecidableEq

/-- A comment on an issue. -/
structure Comment where
  id : String
  body : Option String
  userId : Option String := none
  isBot : Bool := false
  createdAt : Binary64 := 0
deriving DecidableEq

namespace Directive

/-! ### Stored directives -/

/-- Checks and completes the fields of a stored directive. -/
def canonicalFields (v : Value) : Except Fault (List (String × Value)) := do
  let fields ← v.asObject
  let kind ← Value.require fields "type"
  let timestamp ← (Value.getD fields "timestamp").numberOrZero
  return [
    ("type", kind),
    ("priority", Value.getD fields "priority"),
    ("reason", Value.getD fields "reason"),
    ("comment_id", Value.getD fields "comment_id"),
    ("user_id", Value.getD fields "user_id"),
    ("timestamp", .float timestamp)]

/-- Reads a stored directive. -/
def ofValue (v : Value) : Except Fault Directive := do
  let fields ← (Value.ofFields (← canonicalFields v)).asObject
  let kind ← (← Value.require fields "type").asText
  let priority ← (Value.getD fields "priority").asText?
  let reason ← (Value.getD fields "reason").asText?
  let commentId ← (Value.getD fields "comment_id").asText?
  let userId ← (Value.getD fields "user_id").asText?
  let timestamp ← (Value.getD fields "timestamp").toBinary64
  return {
    kind := .ofName kind, priority := priority.map .ofName, reason, commentId, userId, timestamp }

/-- The fields of a directive, those without a value included. -/
def toFields (d : Directive) : List (String × Value) := [
  ("type", .str d.kind.name),
  ("priority", .ofText? (d.priority.map OverridePriority.name)),
  ("reason", .ofText? d.reason),
  ("comment_id", .ofText? d.commentId),
  ("user_id", .ofText? d.userId),
  ("timestamp", .float d.timestamp)]

end Directive

/-- Fields without those whose value is the null. -/
def dropNulls (fields : List (String × Value)) : List (String × Value) :=
  fields.filter fun field => !field.2.isNull

namespace Directive

/-! ### The grammar -/

/-- Whether a character stands for a small ASCII letter, whatever its case.  The long s, the Kelvin
sign, the dotted capital I and the dotless small i are forms of `s`, `k` and `i`. -/
def isFormOf (letter c : Char) : Bool :=
  c.toLower == letter ||
    (letter == 's' && c == '\u017F') || (letter == 'k' && c == '\u212A') ||
    (letter == 'i' && (c == '\u0130' || c == '\u0131'))

/-- Drops a word of small letters from the front, whatever its case there. -/
def dropKeyword? : List Char → List Char → Option (List Char)
  | [], cs => some cs
  | w :: ws, c :: cs => if isFormOf w c then dropKeyword? ws cs else none
  | _ :: _, [] => none

/-- Whether a line is a word, whatever its case. -/
def isKeyword (word line : List Char) : Bool := dropKeyword? word line == some []

/-- The dashes that may stand before a reason. -/
def isDash (c : Char) : Bool := c = '-' ∨ c = '\u2013' ∨ c = '\u2014'

/-- Reads `HOLD` with its reason, if there is one. -/
def hold? (line : List Char) : Option (Option String) :=
  match dropKeyword? "hold".toList line with
  | none => none
  | some [] => some none
  | some rest =>
    match rest.dropWhile Text.isBlank with
    | c :: rest =>
      if isDash c then
        match rest.dropWhile Text.isBlank with
        | [] => none
        | reason => some (some (String.ofList (Text.trimChars reason)))
      else none
    | [] => none

/-- Whether a line reads `SKIP QA`; blanks and hyphens in any number may stand between the words. -/
def isSkipQa (line : List Char) : Bool :=
  match dropKeyword? "skip".toList line with
  | none => false
  | some rest =>
    let isGap (c : Char) : Bool := Text.isBlank c || c == '-'
    match rest with
    | c :: _ => isGap c && isKeyword "qa".toList (rest.dropWhile isGap)
    | [] => false

/-- The small form of a character of a priority.  The dotted capital I has a form of two
characters. -/
def lowerForm (c : Char) : List Char :=
  if c = '\u0130' then ['i', '\u0307'] else [c.toLower]

/-- Reads `PRIORITY:` with a priority. -/
def priority? (line : List Char) : Option OverridePriority :=
  match dropKeyword? "priority:".toList line with
  | none => none
  | some rest =>
    let level := rest.dropWhile Text.isBlank
    if isKeyword "high".toList level || isKeyword "medium".toList level ||
        isKeyword "low".toList level then
      some (.ofName (String.ofList (level.flatMap lowerForm)))
    else none

/-- What a line orders: the kind, the priority and the reason. -/
def order? (line : List Char) : Option (DirectiveKind × Option OverridePriority × Option String) :=
  match hold? line with
  | some reason => some (.hold, none, reason)
  | none =>
    if isKeyword "resume".toList line then some (.resume, none, none)
    else if isSkipQa line then some (.skipQa, none, none)
    else if isKeyword "decompose".toList line then some (.decompose, none, none)
    else if isKeyword "reassign".toList line then some (.reassign, none, none)
    else (priority? line).map fun p => (.priority, some p, none)

/-- The first line of a text that is not blank, without surrounding blanks; empty for a blank
text. -/
def headLine (body : String) : List Char :=
  Text.trimChars (Text.firstLine (Text.trimChars body.toList))

/-- The directive of a comment.  Bots give no directives. -/
def ofComment? (c : Comment) : Option Directive :=
  if c.isBot then none
  else
    match headLine (c.body.getD "") with
    | [] => none
    | line =>
      (order? line).map fun (kind, priority, reason) =>
        { kind, priority, reason, commentId := some c.id, userId := c.userId,
          timestamp := c.createdAt }

/-- Of two directives the one in force: the second one only when it is strictly later. -/
def later (latest? : Option Directive) (next? : Option Directive) : Option Directive :=
  match latest?, next? with
  | latest?, none => latest?
  | none, next? => next?
  | some latest, some next => if latest.timestamp < next.timestamp then some next else some latest

/-- The latest directive of comments given in any order, the first listed one on a tie. -/
def latest? (comments : List Comment) : Option Directive :=
  comments.foldl (fun latest? c => later latest? (ofComment? c)) none

end Directive

end IssueDispatch
