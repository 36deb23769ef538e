import IssueDispatch.Issue
import IssueDispatch.Time.Calendar

/-!
# Events

An event says that something happened to an issue and carries a snapshot of it.  `Event.ofValue`
decodes a payload and `Event.toValue` encodes an event.  `Event.key` identifies the occurrence an
event reports, so that repeated reports of it can be told from new ones.
-/

namespace IssueDispatch

/-- The kinds of events. -/
inductive EventKind where
  | statusChanged
  | commentAdded
  | sessionCompleted
  | pollSnapshot
deriving DecidableEq, Repr

namespace EventKind

/-- All kinds. -/
def all : List EventKind := [statusChanged, commentAdded, sessionCompleted, pollSnapshot]

/-- The tag of a kind in a payload. -/
def name : EventKind → String
  | statusChanged => "issue-status-changed"
  | commentAdded => "comment-added"
  | sessionCompleted => "session-completed"
  | pollSnapshot => "poll-snapshot"

/-- The name under which a malformed payload is reported. -/
def constructorName : EventKind → String
  | statusChanged => "IssueStatusChanged"
  | commentAdded => "CommentAdded"
  | sessionCompleted => "SessionCompleted"
  | pollSnapshot => "PollSnapshot"

/-- The kind of a tag. -/
def ofName? (name : String) : Option EventKind := all.find? fun kind => kind.name == name

/-- The fields that a payload has to have. -/
def required : EventKind → List String
  | statusChanged => ["issue_id", "issue", "new_status"]
  | commentAdded => ["issue_id", "issue", "comment_id", "comment_body"]
  | sessionCompleted => ["issue_id", "issue", "session_id", "outcome"]
  | pollSnapshot => ["issue_id", "issue", "project"]

/-- The other fields with their defaults; the time stamp comes last and defaults to the clock. -/
def optional : EventKind → List (String × Value)
  | statusChanged => [("previous_status", .null), ("source", .str "webhook")]
  | commentAdded =>
    [("user_id", .null), ("user_name", .null), ("is_bot", .bool false), ("source", .str "webhook")]
  | sessionCompleted => [("source", .str "webhook")]
  | pollSnapshot => [("source", .str "poll")]

end EventKind

/-- What an event reports beyond its issue. -/
inductive EventDetail where
  | statusChanged (newStatus : String) (previousStatus : Option String)
  | commentAdded (commentId : String) (body userId userName : Option String) (isBot : Bool)
  | sessionCompleted (sessionId outcome : String)
  | pollSnapshot (project : Value)

/-- An event. -/
structure Event where
  issueId : String
  issue : Issue
  detail : EventDetail
  source : String
  timestamp : Option String

namespace EventDetail

/-- The kind of a detail. -/
def kind : EventDetail → EventKind
  | statusChanged .. => .statusChanged
  | commentAdded .. => .commentAdded
  | sessionCompleted .. => .sessionCompleted
  | pollSnapshot .. => .pollSnapshot

end EventDetail

namespace Event

/-- The kind of an event. -/
def kind (e : Event) : EventKind := e.detail.kind

/-- What identifies the occurrence that an event reports.  A snapshot of a poll stands for the same
occurrence as a change to the status it shows. -/
def key (e : Event) : String :=
  match e.detail with
  | .statusChanged newStatus _ => e.issueId ++ ":" ++ newStatus
  | .commentAdded commentId .. => e.issueId ++ ":comment:" ++ commentId
  | .sessionCompleted sessionId _ => e.issueId ++ ":session:" ++ sessionId
  | .pollSnapshot _ => e.issueId ++ ":" ++ e.issue.status

/-! ### Decoding -/

/-- Names the event in a fault that came up while its payload was read.  A number too large for its
format stays a fault of its own. -/
def malformed (kind : EventKind) : Fault → Fault
  | .missingField name => .malformedEvent (.missingKey kind.name name)
  | .unreadableNumber literal => .malformedEvent (.unreadableNumber kind.name literal)
  | .outOfRange detail => .outOfRange detail
  | _ => .malformedEvent (.invalid kind.name)

/-- The kind of event that the tag of a payload names. -/
def kindOf (fields : Fields) : Except Fault EventKind :=
  let tag := Value.getD fields "type"
  if !tag.isKey then .error tag.keyless
  else
    match tag.str?.bind EventKind.ofName? with
    | some kind => .ok kind
    | none => .error (.malformedEvent (.unknownType tag.literal))

/-- Refuses a field that the kind does not have, the first one given, and then a payload without
the fields it has to have.  A field that is named like the event under construction is refused
without its name. -/
def checkFields (kind : EventKind) (fields : Fields) : Except Fault Unit :=
  let known := "type" :: "timestamp" :: kind.required ++ kind.optional.map (·.1)
  match fields.find? fun field => !(known.any fun name => field.1.names name) with
  | some (key, _) =>
    if key.names "self" then .error (.malformedEvent (.invalid kind.name))
    else .error (.malformedEvent (.unexpectedField kind.name kind.constructorName key.text))
  | none =>
    match kind.required.filter fun name => (Value.get? fields name).isNone with
    | [] => .ok ()
    | missing => .error (.malformedEvent (.missingFields kind.name kind.constructorName missing))

/-- Checks and completes a payload: its kind, and its fields without the tag.  The issue is read
before the fields are checked, and a missing time stamp is the clock reading. -/
def canonicalFields (now : Binary64) (payload : Value) :
    Except Fault (EventKind × List (String × Value)) := do
  match payload with
  | .object fields =>
    let kind ← kindOf fields
    let issue ← (Value.require fields "issue").mapError (malformed kind)
    let issue ← (Issue.canonicalFields issue).mapError (malformed kind)
    checkFields kind fields
    let timestamp ← match Value.get? fields "timestamp" with
      | some v => pure v
      | none => ((isoReading now).map Value.str).mapError fun _ =>
          .malformedEvent (.invalid kind.name)
    let given := kind.required.map fun name =>
      (name, if name = "issue" then .ofFields issue else Value.getD fields name)
    let others := kind.optional.map fun (name, default) =>
      (name, (Value.get? fields name).getD default)
    return (kind, given ++ others ++ [("timestamp", timestamp)])
  | _ => throw (.malformedEvent .notObject)

/-- A payload with all its fields, the labels of its issue in order. -/
def canonical (now : Binary64) (payload : Value) : Except Fault Value := do
  let (kind, fields) ← canonicalFields now payload
  let fields ← fields.mapM fun (name, value) => do
    if name = "issue" then return (name, ← Issue.canonical value) else return (name, value)
  return .ofFields (fields ++ [("type", .str kind.name)])

/-- What identifies the occurrence that a canonical payload reports. -/
def canonicalKey (payload : Value) : Except Fault String := do
  let fields ← payload.asObject
  let issue ← (Value.getD fields "issue").asObject
  let get (name : String) : String := (Value.getD fields name).text
  match (← kindOf fields) with
  | .statusChanged => return get "issue_id" ++ ":" ++ get "new_status"
  | .commentAdded => return get "issue_id" ++ ":comment:" ++ get "comment_id"
  | .sessionCompleted => return get "issue_id" ++ ":session:" ++ get "session_id"
  | .pollSnapshot => return get "issue_id" ++ ":" ++ (Value.getD issue "status").text

/-- Reads the detail of an event of a kind. -/
def readDetail (kind : EventKind) (fields : Fields) : Except Fault EventDetail := do
  let text (name : String) : Except Fault String := (Value.getD fields name).asText
  let text? (name : String) : Except Fault (Option String) := (Value.getD fields name).asText?
  match kind with
  | .statusChanged => return .statusChanged (← text "new_status") (← text? "previous_status")
  | .commentAdded =>
    return .commentAdded (← text "comment_id") (← text? "comment_body") (← text? "user_id")
      (← text? "user_name") (Value.getD fields "is_bot").truthy
  | .sessionCompleted => return .sessionCompleted (← text "session_id") (← text "outcome")
  | .pollSnapshot => return .pollSnapshot (Value.getD fields "project")

/-- Reads an event of a kind from its fields, which may still hold values of other kinds than an
event has. -/
def ofFields (kind : EventKind) (fields : List (String × Value)) : Except Fault Event := do
  let fields ← (Value.ofFields fields).asObject
  let issueId ← (Value.getD fields "issue_id").asText
  let issue ← Issue.ofValue (Value.getD fields "issue")
  let detail ← readDetail kind fields
  let source ← (Value.getD fields "source").asText
  let timestamp ← (Value.getD fields "timestamp").asText?
  return { issueId, issue, detail, source, timestamp }

/-- Decodes a payload. -/
def ofValue (now : Binary64) (payload : Value) : Except Fault Event := do
  let (kind, fields) ← canonicalFields now payload
  ofFields kind fields

/-! ### Encoding -/

/-- The fields that a kind of event has besides the common ones. -/
def detailFields : EventDetail → List (String × Value)
  | .statusChanged newStatus previousStatus =>
    [("new_status", .str newStatus), ("previous_status", .ofText? previousStatus)]
  | .commentAdded commentId body userId userName isBot =>
    [("comment_id", .str commentId), ("comment_body", .ofText? body), ("user_id", .ofText? userId),
      ("user_name", .ofText? userName), ("is_bot", .bool isBot)]
  | .sessionCompleted sessionId outcome =>
    [("session_id", .str sessionId), ("outcome", .str outcome)]
  | .pollSnapshot project => [("project", project)]

/-- Encodes an event. -/
def toValue (e : Event) : Value := .ofFields (
  [("issue_id", .str e.issueId), ("issue", e.issue.toValue)] ++ detailFields e.detail ++
  [("source", .str e.source), ("timestamp", .ofText? e.timestamp), ("type", .str e.kind.name)])

end Event

end IssueDispatch
