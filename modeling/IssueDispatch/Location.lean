/-!
# Locations

Where the state is kept.  All files live in one state directory: the one that the environment names,
or else a hidden directory below the current one.  A location is written in its normal form: empty
and single-dot parts are dropped, double-dot parts stay, and exactly two leading slashes are kept.
-/

namespace IssueDispatch

/-- A place in the file system. -/
structure Location where
  root : String
  parts : List String
deriving DecidableEq, Repr

namespace Location

/-- The location that a text names. -/
def ofText (s : String) : Location :=
  let slashes := (s.toList.takeWhile (· == '/')).length
  let root := if slashes = 0 then "" else if slashes = 2 then "//" else "/"
  let parts := (s.splitOn "/").filter fun part => part != "" && part != "."
  ⟨root, parts⟩

/-- The normal form of a location. -/
def text (l : Location) : String :=
  if l.root = "" ∧ l.parts.isEmpty then "." else l.root ++ "/".intercalate l.parts

/-- A file or directory in a directory. -/
def child (l : Location) (name : String) : Location := { l with parts := l.parts ++ [name] }

/-- The state directory: the one given, unless that is empty, or a directory below the current
one. -/
def stateDirectory (given : Option String) (current : String) : Location :=
  match given with
  | none | some "" => (ofText current).child ".governor"
  | some s => ofText s

/-- The settings file in a state directory. -/
def settingsFile (state : Location) : Location := state.child "governor.yaml"

/-- The database in a state directory. -/
def databaseFile (state : Location) : Location := state.child "state.db"

/-- The directory of the journals in a state directory. -/
def journalDirectory (state : Location) : Location := state.child "logs"

end Location

end IssueDispatch
