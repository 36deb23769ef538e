import IssueDispatch.Settings

/-!
# Settings files

A settings file is a document that holds a raw settings object, or an object with such an object in
its field `governor`.  A file that is missing or says nothing leaves the defaults.  Refusals name
the file.

The files are written in YAML.  What reads them is not part of the settings: it is given as a
function from the text of a document to its value, such as `Yaml.read`.
-/

namespace IssueDispatch.Settings

/-- Adds the name of the file to a refused setting. -/
def inFile (path : String) : Fault → Fault
  | .settings cause none => .settings cause (some path)
  | fault => fault

/-- The raw settings in the value of a file. -/
def rawOfFile (path : String) (data : Value) : Except Fault Value :=
  if !data.truthy then .ok (.object [])
  else
    match data with
    | .object fields =>
      match Value.getD fields "governor" with
      | .object inner => .ok (.object inner)
      | _ => .ok (.object fields)
    | _ => .error (.settings (.notMapping path) (some path))

/-- Reads the settings in the text of a file; `none` stands for a file that is missing. -/
def ofFile (read : String → Except Defect Value) (path : String) (text : Option String) :
    Except Fault Settings :=
  match text with
  | none => build .null
  | some text =>
    match read text with
    | .error .malformed => .error (.settings (.unparsable path) (some path))
    | .error (.conversion fault) => .error fault
    | .ok data => do
      let raw ← rawOfFile path data
      (build raw).mapError (inFile path)

end IssueDispatch.Settings
