import IssueDispatch.Value
import IssueDispatch.Text.Order

/-!
# Issues

An `Issue` is a snapshot of an issue as the tracker shows it.  Snapshots arrive as objects of any
shape.  `Issue.canonicalFields` checks that the identifying fields are there and fills in the
others; `Issue.ofValue` reads the result, and `Issue.toValue` writes it.
-/

namespace IssueDispatch

/-- A snapshot of an issue.  The labels form a set, kept in increasing order. -/
structure Issue where
  id : String
  identifier : String
  title : Option String
  status : String
  labels : List String
  createdAt : Binary64
  description : Option String
  parentId : Option String
  project : Option String
deriving DecidableEq

namespace Value

/-- The fields of an object. -/
def asObject (v : Value) : Except Fault Fields :=
  match v with
  | .object fields => .ok fields
  | v => .error (.wrongKind ("'" ++ v.kindName ++ "' object has no fields"))

/-- A text. -/
def asText (v : Value) : Except Fault String :=
  match v with
  | .str s => .ok s
  | v => .error (.wrongKind ("text expected, not '" ++ v.kindName ++ "'"))

/-- A text or the null. -/
def asText? (v : Value) : Except Fault (Option String) :=
  match v with
  | .null => .ok none
  | v => v.asText.map some

/-- Reads a number; whatever counts as false is zero. -/
def numberOrZero (v : Value) : Except Fault Binary64 :=
  if v.truthy then v.toBinary64 else .ok 0

/-- The distinct members of a value; whatever counts as false has none. -/
def distinctMembers (v : Value) : Except Fault (List Value) :=
  if v.truthy then v.members >>= distinct else .ok []

/-- Sorts values that have a common order: texts by code point, numbers by size. -/
def sortedItems (items : List Value) : Except Fault (List Value) :=
  if items.length ≤ 1 then .ok items
  else
    let texts := items.filterMap str?
    let numbers := items.filterMap number?
    if texts.length = items.length then .ok ((Text.sorted texts).map .str)
    else if numbers.length = items.length then
      .ok (items.mergeSort fun a b =>
        match a.number?, b.number? with
        | some x, some y => !y.lt x
        | _, _ => true)
    else .error (.wrongKind "values of different kinds have no order")

end Value

namespace Issue

/-- Checks and completes the fields of a snapshot.  The labels are the distinct members of what is
given for them. -/
def canonicalFields (v : Value) : Except Fault (List (String × Value)) := do
  let fields ← v.asObject
  let id ← Value.require fields "id"
  let identifier ← Value.require fields "identifier"
  let status ← Value.require fields "status"
  let labels ← (Value.getD fields "labels").distinctMembers
  let createdAt ← (Value.getD fields "created_at").numberOrZero
  return [
    ("id", id),
    ("identifier", identifier),
    ("title", (Value.get? fields "title").getD (.str "")),
    ("status", status),
    ("labels", .list labels),
    ("created_at", .float createdAt),
    ("description", Value.getD fields "description"),
    ("parent_id", Value.getD fields "parent_id"),
    ("project", Value.getD fields "project")]

/-- A snapshot written with its labels in order. -/
def canonical (v : Value) : Except Fault Value := do
  let fields ← canonicalFields v
  let fields ← fields.mapM fun (name, value) => do
    match name, value with
    | "labels", .list labels => return (name, .list (← Value.sortedItems labels))
    | _, _ => return (name, value)
  return .ofFields fields

/-- Reads a snapshot. -/
def ofValue (v : Value) : Except Fault Issue := do
  let fields ← (Value.ofFields (← canonicalFields v)).asObject
  let id ← (← Value.require fields "id").asText
  let identifier ← (← Value.require fields "identifier").asText
  let title ← (Value.getD fields "title").asText?
  let status ← (← Value.require fields "status").asText
  let labels ← (← (Value.getD fields "labels").members).mapM Value.asText
  let createdAt ← (Value.getD fields "created_at").toBinary64
  let description ← (Value.getD fields "description").asText?
  let parentId ← (Value.getD fields "parent_id").asText?
  let project ← (Value.getD fields "project").asText?
  return {
    id, identifier, title, status, labels := Text.sorted labels, createdAt, description, parentId,
    project }

/-- Writes a snapshot. -/
def toValue (issue : Issue) : Value := .ofFields [
  ("id", .str issue.id),
  ("identifier", .str issue.identifier),
  ("title", .ofText? issue.title),
  ("status", .str issue.status),
  ("labels", .list (issue.labels.map .str)),
  ("created_at", .float issue.createdAt),
  ("description", .ofText? issue.description),
  ("parent_id", .ofText? issue.parentId),
  ("project", .ofText? issue.project)]

end Issue

end IssueDispatch
