import IssueDispatch.Admin.Invocation
import IssueDispatch.Location
import IssueDispatch.Store.Sessions
import IssueDispatch.Store.Workers
import IssueDispatch.Text.Table
import IssueDispatch.Time.Calendar

/-!
# The admin console

An operator inspects and repairs the shared store from a console.  Each command is a computation on
a `Console`: it reads answers from the input, writes lines to the output, and ends with an exit
code. Commands that delete ask first unless they are forced.
-/

namespace IssueDispatch.Admin

/-- What a command works on.  A store that does not exist is a blank one. -/
structure Console where
  store : Store
  clock : Binary64
  /-- The rest of the input. -/
  input : List Char := []
  output : String := ""
  errors : String := ""

namespace Console

/-- Writes a line to the output. -/
def print (line : String) : Run Console Unit :=
  modify fun c => { c with output := c.output ++ line ++ "\n" }

/-- Writes a line to the error output. -/
def printError (line : String) : Run Console Unit :=
  modify fun c => { c with errors := c.errors ++ line ++ "\n" }

/-- Asks a question and reads a line. -/
def ask (question : String) : Run Console String := do
  modify fun c => { c with output := c.output ++ question }
  let c ← get
  if c.input.isEmpty then throw .endOfInput
  let (line, rest) := c.input.span (· != '\n')
  set { c with input := rest.tail }
  return String.ofList line

/-- Runs an operation of the store. -/
def onStore {α : Type} (x : Run Store α) : Run Console α :=
  x.onPart Console.store fun store c => { c with store }

end Console

open Console

/-- A text for a cell; one that is unknown or empty gets another text. -/
def cell (text : Option String) (otherwise : String) : String :=
  match text with
  | none | some "" => otherwise
  | some text => text

/-- The first characters of an identifier. -/
def shortId (id : String) : String := String.ofList (id.toList.take 8)

/-- Prints a table of rows and their number, or that there are none. -/
def printRows (headers : List String) (rows : List (List String)) (emptyText summary : String) :
    Run Console Nat := do
  if rows.isEmpty then print emptyText
  else
    print (← Run.ofExcept (Text.table headers rows))
    print ("\n" ++ toString rows.length ++ " " ++ summary)
  return 0

/-- Lists the queued work in the order of claims. -/
def list : Run Console Nat := do
  let works ← onStore Store.listPending
  let rows ← works.mapM fun w => do
    return [shortId w.sessionId, w.issueIdentifier, w.workType, Text.decimalInt w.priority,
      cell w.projectName "-", ← Run.ofExcept (displayReading (some w.queuedAt))]
  printRows ["SESSION", "ISSUE", "TYPE", "PRIORITY", "PROJECT", "QUEUED"] rows
    "Queue is empty." "item(s) queued"

/-- The amount that a session has cost.  There is no text for a cost that is kept as none. -/
def costCell (cost : Binary64) : Except Fault String :=
  if cost.isNaN then .error (.wrongKind "unsupported format string passed to NoneType.__format__")
  else .ok ("$" ++ cost.fixed 2)

/-- Lists the session records, of one status or of all. -/
def sessions (status : Option String) : Run Console Nat := do
  let status := match status with
    | none | some "" => none
    | some name => some (SessionStatus.ofName name)
  let records ← onStore (Store.listSessions status)
  let rows ← records.mapM fun s => do
    return [shortId s.sessionId, cell s.issueIdentifier s.issueId, s.status.name,
      cell s.workType "-", cell s.workerId "-", ← Run.ofExcept (costCell s.totalCost),
      ← Run.ofExcept (displayReading (some s.updatedAt))]
  printRows ["SESSION", "ISSUE", "STATUS", "TYPE", "WORKER", "COST", "UPDATED"] rows
    "No sessions found." "session(s)"

/-- Lists the registered workers. -/
def workers : Run Console Nat := do
  let registered ← onStore Store.listWorkers
  let now := (← get).clock
  let rows ← registered.mapM fun w => do
    return [w.id, cell w.hostname "-",
      w.status ++ (if w.isStale Worker.defaultTimeout now then " (stale)" else ""),
      Text.decimalInt w.activeCount ++ "/" ++ Text.decimalInt w.capacity,
      (match w.projects with
        | none | some [] => "*"
        | some names => ",".intercalate names),
      ← Run.ofExcept (displayReading (some w.lastHeartbeat))]
  printRows ["WORKER", "HOST", "STATUS", "ACTIVE", "PROJECTS", "HEARTBEAT"] rows
    "No workers registered." "worker(s)"

/-- Removes whatever belongs to the sessions that match a part. -/
def remove (part : String) : Run Console Nat := do
  match ← onStore (Store.removeMatching part) with
  | [] =>
    printError ("No session matching: " ++ part)
    return 1
  | removed =>
    removed.forM fun id => print ("Removed " ++ id)
    return 0

/-- Runs a change once it is confirmed. -/
def confirmed (force : Bool) (question : String) (change : Run Console Unit) : Run Console Nat := do
  let agreed ← if force then pure true else do
    let answer ← ask (question ++ " [y/N] ")
    pure (answer == "y" || answer == "Y")
  if agreed then change else print "Cancelled."
  return 0

/-- Deletes something and prints how much of it there was. -/
def clearing (x : Run Store Nat) (what : String) : Run Console Unit := do
  print ("Cleared " ++ toString (← onStore x) ++ " " ++ what)

/-- Rebuilds the queue and prints what was done. -/
def resetting : Run Console Unit := do
  let (claims, requeued) ← onStore (Store.reset (← get).clock)
  print "Reset complete:"
  print ("   - Claims cleared: " ++ toString claims)
  print ("   - Sessions re-queued: " ++ toString requeued)

/-- Executes a command and gives its exit code. -/
def execute (c : Command) : Run Console Nat :=
  match c with
  | .list => list
  | .sessions status => sessions status
  | .workers => workers
  | .remove part => remove part
  | .clearClaims force =>
    confirmed force "Clear all claim markers?" (clearing Store.clearClaims "claim(s)")
  | .clearQueue force =>
    confirmed force "Clear all queued work?" (clearing Store.clearQueue "queue item(s)")
  | .clearAll force =>
    confirmed force "Clear ALL queue, session and worker state?" do
      clearing Store.clearQueue "queue item(s)"
      clearing Store.clearSessions "session(s)"
      clearing Store.clearClaims "claim(s)"
      clearing Store.clearWorkers "worker registration(s)"
  | .reset force => confirmed force "Reset work state?" resetting

/-- The name of the admin command. -/
def programName : String := "governor-admin"

/-- The version of the admin command. -/
def programVersion : String := "0.1.0"

/-- How the admin command is used. -/
def usage : String :=
  "usage: " ++ programName ++ " [-h] [--version] [--db DB] COMMAND ...\n\n" ++
  "Inspect and recover the governor work queue.\n\n" ++
  "  list                      List queued work\n" ++
  "  sessions [--status NAME]  List sessions\n" ++
  "  workers                   List registered workers\n" ++
  "  remove SESSION            Remove sessions by partial id\n" ++
  "  clear-claims [--force]    Delete all claim markers\n" ++
  "  clear-queue [--force]     Delete all queued work\n" ++
  "  clear-all [--force]       Delete queue, claims, sessions and workers\n" ++
  "  reset [--force]           Clear claims and re-queue unfinished sessions"

/-- Executes a command on the store at a place, if there is one, and gives the exit code. -/
def executeAt (place : String) (c : Command) : Run Console Nat := do
  match ← Run.ofExcept (← get).store.schemaVersion with
  | none =>
    printError ("No governor database at " ++ place)
    return 1
  | some _ => execute c

/-- Where the store of an invocation is: the place it names or else the usual one. -/
def Invocation.place (i : Invocation) (usual : Location) : Location :=
  match i with
  | .run (some path) _ => .ofText path
  | _ => usual

/-- Answers an invocation and gives the exit code; `place` tells where the store is. -/
def respond (place : String) (i : Invocation) : Run Console Nat := do
  match i with
  | .help =>
    print usage
    return 0
  | .version =>
    print (programName ++ " " ++ programVersion)
    return 0
  | .usageError =>
    printError usage
    return 2
  | .run _ c => executeAt place c

end IssueDispatch.Admin
