import IssueDispatch.Location
import IssueDispatch.Time.Calendar

/-!
# The journal

What happens is written to dated journal files, one line an entry, once journaling has been set up.
Setting it up again on another day or in another directory adds a file, and every file that has been
added gets every later entry.
-/

namespace IssueDispatch

/-- How serious an entry is. -/
inductive Severity where
  | debug
  | info
  | warning
  | error
  | critical
deriving DecidableEq, Repr

namespace Severity

/-- The name of a severity. -/
def name : Severity → String
  | debug => "DEBUG"
  | info => "INFO"
  | warning => "WARNING"
  | error => "ERROR"
  | critical => "CRITICAL"

/-- The severity of a name. -/
def ofName? (name : String) : Option Severity :=
  [debug, info, warning, error, critical].find? fun s => s.name == name

/-- The order of severities. -/
def rank : Severity → Nat
  | debug => 10
  | info => 20
  | warning => 30
  | error => 40
  | critical => 50

end Severity

/-- One journal file and its lines. -/
structure JournalFile where
  location : Location
  lines : List String
deriving DecidableEq, Repr

/-- The journal: the least severity that is written, and the files in the order they were added. -/
structure Journal where
  threshold : Severity := .critical
  files : List JournalFile := []
deriving DecidableEq, Repr

namespace Journal

/-- The source whose entries, and those of the sources below it, go to the journal. -/
def rootSource : String := "governor"

/-- Whether the entries of a source go to the journal. -/
def covers (source : String) : Bool :=
  source == rootSource || (rootSource ++ ".").toList.isPrefixOf source.toList

/-- The whole second of a clock reading and the thousandths of the rest, the fraction of which is
dropped. -/
def secondsAndMillis (now : Binary64) : Int × Int :=
  let fraction :=
    match now.units? with
    | some u => Binary64.ofUnits (Int.tmod u Binary64.unitsPerOne * 1000)
    | none => 0
  (now.floor?.getD 0, fraction.truncate?.getD 0)

/-- A number in at least three places. -/
def threePlaces (n : Int) : String :=
  if n < 0 then "-" ++ Text.paddedDigits 2 n.natAbs else Text.paddedDigits 3 n.natAbs

/-- An entry as a line. -/
def line (now : Binary64) (severity : Severity) (source text : String) : String :=
  let (seconds, millis) := secondsAndMillis now
  "[" ++ (Moment.mk seconds 0).displayText ++ "," ++ threePlaces millis ++ "] [" ++ severity.name ++
    "] " ++ source ++ ": " ++ text

/-- The journal file of the day in a directory. -/
def fileOfDay (now : Binary64) (directory : Location) : Except Fault Location := do
  let m ← Moment.ofReading now
  let m ← m.checkYear secondsPerDay
  return directory.child ("governor-" ++ m.dateText 1 ++ ".log")

/-- Sets journaling up: sets the threshold and adds the file of the day unless it is there already.
Gives the location of that file. -/
def setUp (j : Journal) (now : Binary64) (debug : Bool) (directory : Location) :
    Except Fault (Location × Journal) := do
  let location ← fileOfDay now directory
  let files :=
    if j.files.any fun f => f.location == location then j.files
    else j.files ++ [⟨location, []⟩]
  return (location, ⟨if debug then .debug else .info, files⟩)

/-- Writes an entry to every file, if its source is covered and it is serious enough. -/
def write (j : Journal) (now : Binary64) (severity : Severity) (source text : String) : Journal :=
  if covers source && decide (j.threshold.rank ≤ severity.rank) then
    let lines := (line now severity source text).splitOn "\n"
    { j with files := j.files.map fun f => { f with lines := f.lines ++ lines } }
  else j

end Journal

end IssueDispatch
