import IssueDispatch.Admin.Console
import IssueDispatch.Store.Snapshot
import IssueDispatch.Value.JsonText
import Std.Time.DateTime.Timestamp

/-!
# The admin command

The command line around the admin console.  The store is read from a file that holds a snapshot of
it as JSON, and the file is written anew when a command has changed the store.
-/

namespace IssueDispatch.Admin

/-- The store in the text of a file; anything but a snapshot holds a blank one. -/
def storeOfText (text : Option String) : Store :=
  match text.bind Json.read? with
  | none => .blank
  | some v =>
    match Store.ofSnapshot v with
    | .ok store => store
    | .error _ => .blank

/-- The text of a file, if it can be read. -/
def readText (place : Location) : IO (Option String) := do
  try
    return some (← IO.FS.readFile place.text)
  catch _ => return none

/-- The clock reading in seconds. -/
def readClock : IO Binary64 := do
  let nanoseconds := (← Std.Time.Timestamp.now).toNanosecondsSinceUnixEpoch.val
  return (Binary64.ofInt nanoseconds).divNat 1000000000

/-- Answers an invocation.  If it asks a question, the question is shown, a line is read, and the
invocation is answered again with that line as its input. -/
def converse (place : String) (invocation : Invocation) (console : Console) :
    IO (Except Fault Nat × Console) := do
  match respond place invocation console with
  | (.error .endOfInput, asked) =>
    let output ← IO.getStdout
    output.putStr asked.output
    output.flush
    let line ← (← IO.getStdin).getLine
    let (result, answered) := respond place invocation { console with input := line.toList }
    return (result, { answered with
      output := String.ofList (answered.output.toList.drop asked.output.length) })
  | answered => return answered

/-- Runs the admin command and gives its exit code. -/
def run (arguments : List String) : IO UInt32 := do
  let invocation := Invocation.ofArguments arguments
  let current := toString (← IO.currentDir)
  let state := Location.stateDirectory (← IO.getEnv "GOVERNOR_DIR") current
  let place := invocation.place state.databaseFile
  let store := storeOfText (← readText place)
  let (result, after) ← converse place.text invocation { store, clock := ← readClock }
  IO.print after.output
  IO.eprint after.errors
  let text := Json.text after.store.snapshot
  if text != Json.text store.snapshot then IO.FS.writeFile place.text text
  match result with
  | .ok code => return code.toUInt32
  | .error fault =>
    IO.eprintln fault.message
    return 1

end IssueDispatch.Admin

/-- The admin command. -/
def main (arguments : List String) : IO UInt32 := IssueDispatch.Admin.run arguments
