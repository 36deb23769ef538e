import IssueDispatch.Value
import IssueDispatch.Text.Blank
import IssueDispatch.Text.Order

/-!
# Settings

`Settings.build` merges a raw settings object over the defaults and checks it.  A setting that is
only compared later is kept as it was given; durations that may be infinite are read as numbers by
`Settings.duration`.
-/

namespace IssueDispatch

/-- The names that a tracker gives to the stages of an issue.  A raw settings object may put any
value in place of a name; a value that is no text names no stage. -/
structure StatusMap where
  icebox : Value
  backlog : Value
  started : Value
  finished : Value
  delivered : Value
  rejected : Value
  terminal : List Value

/-- Whether a status ends the life of an issue. -/
def StatusMap.isTerminal (s : StatusMap) (status : String) : Bool :=
  s.terminal.any fun name => name.names status

/-- How long each kind of touchpoint waits for an answer. -/
structure TouchpointSettings where
  reviewRequest : Binary64
  decompositionProposal : Binary64
  escalationAlert : Binary64
deriving DecidableEq

/-- How issues in the icebox are split between research and backlog creation.  A description is well
researched when it has the least length and contains one of the headers; research starts once an
issue is old enough. -/
structure IceboxSettings where
  researchDelay : Binary64
  minDescriptionLength : Int
  researchedHeaders : List Value
  requestLabels : List Value

/-- All settings.  The cap bounds the dispatches of one project in one scan. -/
structure Settings where
  projects : List Value
  scanInterval : Value
  maxConcurrentDispatches : Int
  autoResearch : Bool
  autoBacklogCreation : Bool
  autoDevelopment : Bool
  autoQa : Bool
  autoAcceptance : Bool
  humanResponseTimeout : Binary64
  qaCooldown : Value
  polling : Bool
  pollInterval : Value
  dedupWindow : Value
  statuses : StatusMap
  touchpoints : TouchpointSettings
  icebox : IceboxSettings

namespace Settings

/-! ### Defaults -/

/-- The seconds of an hour. -/
def hour : Int := 3600

/-- The defaults of the settings that are not grouped in a section. -/
def defaults : Fields := [
  (.str "projects", .list []),
  (.str "scan_interval_seconds", .int 60),
  (.str "max_concurrent_dispatches", .int 3),
  (.str "enable_auto_research", .bool false),
  (.str "enable_auto_backlog_creation", .bool false),
  (.str "enable_auto_development", .bool true),
  (.str "enable_auto_qa", .bool true),
  (.str "enable_auto_acceptance", .bool true),
  (.str "human_response_timeout_seconds", .int (4 * hour)),
  (.str "qa_cooldown_seconds", .int 300),
  (.str "enable_polling", .bool true),
  (.str "poll_interval_seconds", .int 300),
  (.str "dedup_window_seconds", .int 10)]

/-- The default names of the stages. -/
def defaultStatuses : Fields := [
  (.str "icebox", .str "Icebox"),
  (.str "backlog", .str "Backlog"),
  (.str "started", .str "Started"),
  (.str "finished", .str "Finished"),
  (.str "delivered", .str "Delivered"),
  (.str "rejected", .str "Rejected"),
  (.str "terminal", .list [.str "Accepted", .str "Canceled", .str "Duplicate"])]

/-- The default windows of the touchpoints; the one of a review request follows another setting. -/
def defaultTouchpoints (reviewRequest : Value) : Fields := [
  (.str "review_request_timeout_seconds", reviewRequest),
  (.str "decomposition_proposal_timeout_seconds", .int (2 * hour)),
  (.str "escalation_alert_timeout_seconds", .float (.infinity false))]

/-- The default heuristics of the icebox. -/
def defaultIcebox : Fields := [
  (.str "icebox_research_delay_seconds", .int hour),
  (.str "min_researched_description_length", .int 200),
  (.str "researched_headers", .list [.str "## Acceptance Criteria", .str "## Technical Approach",
    .str "## Summary", .str "## Design", .str "## Requirements"]),
  (.str "research_request_labels", .list [.str "Needs Research"])]

/-- The sections of grouped settings. -/
def sections : List String := ["statuses", "touchpoints", "top_of_funnel"]

/-! ### Reading -/

/-- Reads a number of seconds; the null and the words `never`, `inf` and `infinity` stand for an
infinite time. -/
def duration (v : Value) : Except Fault Binary64 :=
  let isNever := match v with
    | .null => true
    | .str s => ["never", "inf", "infinity"].contains (Text.lowerAscii s)
    | _ => false
  if isNever then .ok (.infinity false)
  else
    match v.toBinary64 with
    | .ok x => .ok x
    | .error (.wrongKind _) | .error (.unreadableNumber _) =>
      .error (.settings (.invalidDuration v.literal) none)
    | .error fault => .error fault

/-- The raw settings as fields; whatever counts as false is no setting at all, and a list may hold
pairs of keys and values. -/
def rawFields (v : Value) : Except Fault Fields :=
  if !v.truthy then .ok []
  else
    match v with
    | .object fields => .ok fields
    | v => do
      let pairs ← v.members
      pairs.foldlM (fun fields pair => do
        match ← pair.members with
        | [key, value] =>
          if key.isKey then return Value.insert fields key value else throw key.keyless
        | _ => throw (.unreadableInteger "a setting has to be a pair of key and value")) []

/-- Refuses keys that belong to no setting. -/
def checkKeys (fields : Fields) : Except Fault Unit :=
  let isKnown (key : Value) : Bool :=
    (Value.lookup? defaults key).isSome || sections.any fun name => key.names name
  let unknown := (fields.map (·.1)).filter fun key => !isKnown key
  if unknown.isEmpty then .ok ()
  else
    let names := unknown.filterMap Value.str?
    if names.length = unknown.length then
      .error (.settings (.unknownKeys (Text.sorted names)) none)
    else .error (.wrongKind "the name of a setting has to be a text")

/-- The fields of a section laid over its defaults. -/
def sectionFields (fields base : Fields) (name : String) : Except Fault Fields :=
  let given := Value.getD fields name
  if !given.truthy then .ok base
  else
    match given with
    | .object extra => .ok (Value.merge base extra)
    | v => .error (.wrongKind ("'" ++ v.kindName ++ "' object is not a mapping"))

/-- Reads the projects, which have to be given as a list or a pair. -/
def readProjects : Value → Except Fault (List Value)
  | .list items => .ok items
  | .pair first second => .ok [first, second]
  | _ => .error (.settings .projectsNotList none)

/-- Refuses an interval that is zero or below. -/
def checkPositive (fields : Fields) (name : String) : Except Fault Unit := do
  if ← (Value.getD fields name).compareNumber "<=" Number.le (.int 0) then
    throw (.settings (.notPositive name) none)

/-- A text alone stands for the list of that text. -/
def textAsList : Value → Value
  | .str s => .list [.str s]
  | v => v

/-- Reads the names of the stages. -/
def buildStatuses (fields : Fields) : Except Fault StatusMap := do
  let raw ← sectionFields fields defaultStatuses "statuses"
  let get (name : String) : Value := Value.getD raw name
  let terminal ← (← (textAsList (get "terminal")).members) |> Value.distinct
  return {
    icebox := get "icebox"
    backlog := get "backlog"
    started := get "started"
    finished := get "finished"
    delivered := get "delivered"
    rejected := get "rejected"
    terminal }

/-- Reads the windows of the touchpoints. -/
def buildTouchpoints (fields : Fields) (humanResponse : Value) :
    Except Fault TouchpointSettings := do
  let raw ← sectionFields fields (defaultTouchpoints humanResponse) "touchpoints"
  let reviewRequest ← duration (Value.getD raw "review_request_timeout_seconds")
  let decompositionProposal ← duration (Value.getD raw "decomposition_proposal_timeout_seconds")
  let escalationAlert ← duration (Value.getD raw "escalation_alert_timeout_seconds")
  return { reviewRequest, decompositionProposal, escalationAlert }

/-- Reads the heuristics of the icebox. -/
def buildIcebox (fields : Fields) : Except Fault IceboxSettings := do
  let raw ← sectionFields fields defaultIcebox "top_of_funnel"
  let minLength := Value.getD raw "min_researched_description_length"
  if ← minLength.compareNumber "<" Number.lt (.int 0) then
    throw (.settings .negativeLength none)
  let researchDelay ← duration (Value.getD raw "icebox_research_delay_seconds")
  let minDescriptionLength ← minLength.toInt
  let researchedHeaders ← (textAsList (Value.getD raw "researched_headers")).members
  let requestLabels ← (textAsList (Value.getD raw "research_request_labels")).members
  return { researchDelay, minDescriptionLength, researchedHeaders, requestLabels }

/-- Builds the settings from a raw settings object. -/
def build (raw : Value) : Except Fault Settings := do
  let data ← rawFields raw
  checkKeys data
  let fields := Value.merge defaults (data.filter fun field =>
    (Value.lookup? defaults field.1).isSome)
  let get (name : String) : Value := Value.getD fields name
  let projects ← readProjects (get "projects")
  let cap := get "max_concurrent_dispatches"
  if ← cap.compareNumber "<" Number.lt (.int 1) then
    throw (.settings .dispatchesBelowOne none)
  checkPositive fields "scan_interval_seconds"
  checkPositive fields "poll_interval_seconds"
  checkPositive fields "dedup_window_seconds"
  let statuses ← buildStatuses data
  let touchpoints ← buildTouchpoints data (get "human_response_timeout_seconds")
  let icebox ← buildIcebox data
  let maxConcurrentDispatches ← cap.toInt
  let humanResponseTimeout ← duration (get "human_response_timeout_seconds")
  return {
    projects
    scanInterval := get "scan_interval_seconds"
    maxConcurrentDispatches
    autoResearch := (get "enable_auto_research").truthy
    autoBacklogCreation := (get "enable_auto_backlog_creation").truthy
    autoDevelopment := (get "enable_auto_development").truthy
    autoQa := (get "enable_auto_qa").truthy
    autoAcceptance := (get "enable_auto_acceptance").truthy
    humanResponseTimeout
    qaCooldown := get "qa_cooldown_seconds"
    polling := (get "enable_polling").truthy
    pollInterval := get "poll_interval_seconds"
    dedupWindow := get "dedup_window_seconds"
    statuses
    touchpoints
    icebox }

end Settings

end IssueDispatch
