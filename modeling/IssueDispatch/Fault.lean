/-!
# Faults

A fault is the cause for which an operation gives no result.  Every operation of the library fails
with a value of this one type, so that a caller that contains failures can contain all of them, and
`Fault.message` gives the wording a report shows.  Faults raised by a collaborator outside the
library arrive as `external`.
-/

namespace IssueDispatch

/-- Why a settings file or mapping is refused. -/
inductive SettingsError where
  /-- Keys that no setting has, in increasing order. -/
  | unknownKeys (names : List String)
  | projectsNotList
  | dispatchesBelowOne
  | notPositive (key : String)
  | invalidDuration (literal : String)
  | negativeLength
  | unparsable (path : String)
  | notMapping (path : String)
deriving DecidableEq, Repr

/-- The wording of a refused setting. -/
def SettingsError.message : SettingsError → String
  | .unknownKeys names => "Unknown governor settings: " ++ ", ".intercalate names
  | .projectsNotList => "'projects' must be a list of project names"
  | .dispatchesBelowOne => "'max_concurrent_dispatches' must be at least 1"
  | .notPositive key => "'" ++ key ++ "' must be positive"
  | .invalidDuration literal => "Invalid duration: " ++ literal
  | .negativeLength => "'min_researched_description_length' must not be negative"
  | .unparsable path => "Could not parse " ++ path
  | .notMapping path => path ++ " must contain a mapping"

/-- Why a payload is no event. -/
inductive MalformedEvent where
  | notObject
  /-- The type tag, as a literal, names no kind of event. -/
  | unknownType (literal : String)
  /-- An event of the named kind lacks a field of its issue, or the issue itself. -/
  | missingKey (kind field : String)
  | unexpectedField (kind constructor field : String)
  | missingFields (kind constructor : String) (fields : List String)
  | unreadableNumber (kind literal : String)
  /-- Any other defect; the report names only the kind of event. -/
  | invalid (kind : String)
deriving DecidableEq, Repr

/-- Names in quotation marks joined as in a sentence: `'a'`, `'a' and 'b'`, `'a', 'b', and 'c'`. -/
def enumerateNames (names : List String) : String :=
  let quoted := names.map fun name => "'" ++ name ++ "'"
  match quoted with
  | [] => ""
  | [a] => a
  | [a, b] => a ++ " and " ++ b
  | _ => ", ".intercalate quoted.dropLast ++ ", and " ++ quoted.getLast?.getD ""

/-- The wording of a malformed event. -/
def MalformedEvent.message : MalformedEvent → String
  | .notObject => "Event payload must be an object"
  | .unknownType literal => "Unknown event type: " ++ literal
  | .missingKey kind field => "Invalid " ++ kind ++ " event: '" ++ field ++ "'"
  | .unexpectedField kind constructor field =>
    "Invalid " ++ kind ++ " event: " ++ constructor ++
      ".__init__() got an unexpected keyword argument '" ++ field ++ "'"
  | .missingFields kind constructor fields =>
    "Invalid " ++ kind ++ " event: " ++ constructor ++ ".__init__() missing " ++
      toString fields.length ++ " required positional argument" ++
      (if fields.length = 1 then "" else "s") ++ ": " ++ enumerateNames fields
  | .unreadableNumber kind literal =>
    "Invalid " ++ kind ++ " event: could not convert string to float: " ++ literal
  | .invalid kind => "Invalid " ++ kind ++ " event"

/-- Why an operation gives no result. -/
inductive Fault where
  /-- A value of a kind that the operation is not defined on. -/
  | wrongKind (detail : String)
  /-- A text, shown as a literal, that is no decimal numeral. -/
  | unreadableNumber (literal : String)
  /-- A text, shown as a literal, that is no whole number, or a number that is not one. -/
  | unreadableInteger (detail : String)
  /-- A number beyond the range of the format it has to be stored in. -/
  | outOfRange (detail : String)
  | missingField (name : String)
  | missingCell
  | unreadableJson
  | unreadableTime (detail : String)
  | endOfInput
  | missingTable (table : String)
  | duplicateKey (column : String)
  | missingValue (column : String)
  | settings (cause : SettingsError) (path : Option String)
  | invalidSessionStatus (status : String)
  | unknownMode (mode : String)
  | busRequired
  | busClosed
  | malformedEvent (cause : MalformedEvent)
  | dispatchFailed (issueId detail : String)
  | issueBusy (issueId identifier : String)
  | external (detail : String)
deriving DecidableEq, Repr

namespace Fault

/-- The wording of a fault in a report. -/
def message : Fault → String
  | wrongKind detail => detail
  | unreadableNumber literal => "could not convert string to float: " ++ literal
  | unreadableInteger detail => detail
  | outOfRange detail => detail
  | missingField name => "'" ++ name ++ "'"
  | missingCell => "a row has fewer cells than there are columns"
  | unreadableJson => "unreadable JSON"
  | unreadableTime detail => detail
  | endOfInput => "EOF when reading a line"
  | missingTable table => "no such table: " ++ table
  | duplicateKey column => "UNIQUE constraint failed: " ++ column
  | missingValue column => "NOT NULL constraint failed: " ++ column
  | settings cause _ => cause.message
  | invalidSessionStatus status => "Invalid session status: " ++ status
  | unknownMode mode => "Unknown governor mode: " ++ mode
  | busRequired => "event-driven mode needs an event bus"
  | busClosed => "Event bus is closed"
  | malformedEvent cause => cause.message
  | dispatchFailed _ detail => detail
  | issueBusy _ identifier => identifier ++ " already has an active session"
  | external detail => detail

/-- The faults of the store itself, which a dispatch reports under its own name. -/
def isStoreFault : Fault → Bool
  | missingTable _ | duplicateKey _ | missingValue _ => true
  | _ => false

end Fault

/-- Why the text of a document has no value: it is not in the format of the document, or a fault
came up while a value in it was read. -/
inductive Defect where
  | malformed
  | conversion (fault : Fault)
deriving DecidableEq, Repr

end IssueDispatch
