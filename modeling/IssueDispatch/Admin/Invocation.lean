import IssueDispatch.Text.Digit

/-!
# Invocations of the admin command

`Invocation.ofArguments` reads the arguments of the admin command.  Switches may be shortened as
long as they stay unique, their values may follow after an equals sign, and switches of one letter
may be written together.  The switch for the database stands before the name of the command, all
others after it.  Whatever does not fit is a usage error, unless help or the version was asked for
before.
-/

namespace IssueDispatch.Admin

/-- The switches of the command line. -/
inductive Switch where
  | help
  | version
  | database
  | status
  | force
deriving DecidableEq, Repr

/-- Whether a switch has a value. -/
def Switch.hasValue : Switch → Bool
  | .database | .status => true
  | _ => false

/-- The names of switches. -/
abbrev Switches := List (String × Switch)

/-- The switches that every part of the command line has. -/
def helpSwitches : Switches := [("-h", .help), ("--help", .help)]

/-- The switches before the name of the command. -/
def generalSwitches : Switches :=
  helpSwitches ++ [("--version", .version), ("-V", .version), ("--db", .database)]

/-- What is written behind the name of a switch in the same argument. -/
structure Tail where
  afterEquals : Bool
  text : List Char
deriving DecidableEq, Repr

/-- What an argument is taken for: a switch, maybe with something written behind its name, or else a
word. -/
inductive Argument where
  | word (text : String)
  | switch (s : Switch) (isShort : Bool) (tail : Option Tail)
  | unknownSwitch
  | ambiguousSwitch
  /-- Two hyphens, after which everything is a word. -/
  | separator
deriving DecidableEq, Repr

/-- Splits a text at its first equals sign. -/
def splitAtEquals (cs : List Char) : String × Option Tail :=
  let (name, rest) := cs.span (· != '=')
  (String.ofList name, match rest with
    | _ :: text => some ⟨true, text⟩
    | [] => none)

/-- Whether a text is a negative number. -/
def isNegativeNumber : List Char → Bool
  | '-' :: cs =>
    let (whole, rest) := cs.span fun c => (Text.digit? c).isSome
    match rest with
    | [] => !whole.isEmpty
    | '.' :: fraction => !fraction.isEmpty && fraction.all fun c => (Text.digit? c).isSome
    | _ => false
  | _ => false

/-- Whether a text starts with two hyphens. -/
def startsLong (cs : List Char) : Bool := ['-', '-'].isPrefixOf cs

/-- The switches that a shortened name may stand for.  A name with one hyphen may be a switch of one
letter with something right behind it. -/
def candidates (switches : Switches) (cs : List Char) : List Argument :=
  match cs with
  | '-' :: '-' :: _ =>
    let (name, tail) := splitAtEquals cs
    switches.filterMap fun (full, s) =>
      if name.toList.isPrefixOf full.toList then some (.switch s false tail) else none
  | _ =>
    let letter := String.ofList (cs.take 2)
    switches.filterMap fun (full, s) =>
      if full = letter then some (.switch s true (some ⟨false, cs.drop 2⟩))
      else if cs.isPrefixOf full.toList then
        some (.switch s (!startsLong full.toList) none)
      else none

/-- What an argument is taken for. -/
def classify (switches : Switches) (text : String) : Argument :=
  let isShort := !startsLong text.toList
  match text.toList with
  | [] | ['-'] => .word text
  | '-' :: rest =>
    match switches.lookup text with
    | some s => .switch s isShort none
    | none =>
      let (name, tail) := splitAtEquals ('-' :: rest)
      match tail.bind fun _ => switches.lookup name with
      | some s => .switch s isShort tail
      | none =>
        match candidates switches ('-' :: rest) with
        | [a] => a
        | _ :: _ :: _ => .ambiguousSwitch
        | [] =>
          if isNegativeNumber ('-' :: rest) || rest.contains ' ' then .word text
          else .unknownSwitch
  | _ => .word text

/-- What some arguments are taken for. -/
def classifyAll (switches : Switches) : List String → List Argument
  | [] => []
  | "--" :: rest => .separator :: rest.map .word
  | text :: rest => classify switches text :: classifyAll switches rest

/-- Switches of one letter may be written together, the last one with its value.  Gives the switches
and whether an unknown one ended them; nothing if a switch without a value has been given one. -/
def expand? (switches : Switches) (s : Switch) (isShort : Bool) (tail : Option Tail) :
    Option (List (Switch × Option String) × Bool) :=
  match tail with
  | none => some ([(s, none)], false)
  | some ⟨afterEquals, text⟩ =>
    if s.hasValue then some ([(s, some (String.ofList text))], false)
    else if !isShort || afterEquals then none
    else together s text
where
  /-- Reads the letters behind a switch without a value. -/
  together (s : Switch) : List Char → Option (List (Switch × Option String) × Bool)
    | [] => none
    | '-' :: _ => none
    | c :: rest =>
      match switches.lookup (String.ofList ['-', c]) with
      | none => some ([(s, none)], true)
      | some next => do
        let (given, ended) ←
          match rest with
          | [] => some ([(next, none)], false)
          | '=' :: value =>
            if next.hasValue then some ([(next, some (String.ofList value))], false) else none
          | c :: rest =>
            if next.hasValue then some ([(next, some (String.ofList (c :: rest)))], false)
            else together next (c :: rest)
        return ((s, none) :: given, ended)

/-- Why the reading of arguments ends early. -/
inductive Ending where
  | help
  | version
  | usageError
deriving DecidableEq, Repr

/-- What has been read. -/
structure Reading where
  database : Option String := none
  status : Option String := none
  force : Bool := false
  word : Option String := none
  hasExtras : Bool := false
deriving DecidableEq, Repr

/-- Takes note of switches. -/
def Reading.note (r : Reading) : List (Switch × Option String) → Except Ending Reading
  | [] => .ok r
  | (.help, _) :: _ => .error .help
  | (.version, _) :: _ => .error .version
  | (.database, value) :: rest => { r with database := value }.note rest
  | (.status, value) :: rest => { r with status := value }.note rest
  | (.force, _) :: rest => { r with force := true }.note rest

/-- Whether the last of some switches still lacks its value. -/
def lacksValue (given : List (Switch × Option String)) : Bool :=
  match given.getLast? with
  | some (s, none) => s.hasValue
  | _ => false

/-- Gives the last of some switches its value. -/
def withValue (given : List (Switch × Option String)) (value : String) :
    List (Switch × Option String) :=
  match given.getLast? with
  | some (s, _) => given.dropLast ++ [(s, some value)]
  | none => given

/-- Reads the arguments after the name of a command, which may call for one word. -/
def readArguments (switches : Switches) (needsWord : Bool) :
    List Argument → Reading → Except Ending Reading
  | [], r => if needsWord && r.word.isNone then .error .usageError else .ok r
  | .word text :: rest, r =>
    if needsWord && r.word.isNone then
      match rest with
      | .separator :: rest => readArguments switches needsWord rest { r with word := some text }
      | rest => readArguments switches needsWord rest { r with word := some text }
    else readArguments switches needsWord rest { r with hasExtras := true }
  | .separator :: rest, r =>
    readArguments switches needsWord rest
      (if needsWord && r.word.isNone then r else { r with hasExtras := true })
  | .unknownSwitch :: rest, r => readArguments switches needsWord rest { r with hasExtras := true }
  | .ambiguousSwitch :: _, _ => .error .usageError
  | .switch s isShort tail :: rest, r =>
    match expand? switches s isShort tail with
    | none => .error .usageError
    | some (given, ended) =>
      let r := { r with hasExtras := r.hasExtras || ended }
      if lacksValue given then
        match rest with
        | .word text :: rest => do
          readArguments switches needsWord rest (← r.note (withValue given text))
        | _ => .error .usageError
      else do readArguments switches needsWord rest (← r.note given)

/-- The commands. -/
inductive Command where
  | list
  | sessions (status : Option String)
  | workers
  | remove (part : String)
  | clearClaims (force : Bool)
  | clearQueue (force : Bool)
  | clearAll (force : Bool)
  | reset (force : Bool)
deriving DecidableEq, Repr

namespace Command

/-- The switches that skip the question before a change. -/
def forceSwitches : Switches := helpSwitches ++ [("--force", .force), ("-f", .force)]

/-- What follows the name of a command: its switches, whether it calls for a word, and the command
made of what has been read. -/
def form? (name : String) : Option (Switches × Bool × (Reading → Command)) :=
  match name with
  | "list" => some (helpSwitches, false, fun _ => list)
  | "sessions" =>
    some (helpSwitches ++ [("--status", .status), ("-s", .status)], false, fun r =>
      sessions r.status)
  | "workers" => some (helpSwitches, false, fun _ => workers)
  | "remove" => some (helpSwitches, true, fun r => remove (r.word.getD ""))
  | "clear-claims" => some (forceSwitches, false, fun r => clearClaims r.force)
  | "clear-queue" => some (forceSwitches, false, fun r => clearQueue r.force)
  | "clear-all" => some (forceSwitches, false, fun r => clearAll r.force)
  | "reset" => some (forceSwitches, false, fun r => reset r.force)
  | _ => none

end Command

/-- What the admin command is asked for. -/
inductive Invocation where
  | help
  | version
  | usageError
  | run (database : Option String) (c : Command)
deriving DecidableEq, Repr

namespace Invocation

/-- The invocation at which the reading of arguments ended. -/
def ofEnding : Ending → Invocation
  | .help => help
  | .version => version
  | .usageError => usageError

/-- Reads a command and its arguments. -/
def ofCommand (name : String) (arguments : List String) (r : Reading) : Invocation :=
  match Command.form? name with
  | none => usageError
  | some (switches, needsWord, command) =>
    let classified := classifyAll switches arguments
    if classified.contains .ambiguousSwitch then usageError
    else
      match readArguments switches needsWord classified { hasExtras := r.hasExtras } with
      | .error ending => ofEnding ending
      | .ok given => if given.hasExtras then usageError else run r.database (command given)

/-- Reads the arguments up to the name of a command.  `arguments` are the texts of what has been
classified. -/
def ofClassified : List Argument → List String → Reading → Invocation
  | [], _, r => if r.hasExtras then usageError else help
  | .word name :: _, arguments, r => ofCommand name arguments.tail r
  | .separator :: _, _, _ => usageError
  | .unknownSwitch :: rest, arguments, r =>
    ofClassified rest arguments.tail { r with hasExtras := true }
  | .ambiguousSwitch :: _, _, _ => usageError
  | .switch s isShort tail :: rest, arguments, r =>
    match expand? generalSwitches s isShort tail with
    | none => usageError
    | some (given, ended) =>
      let r := { r with hasExtras := r.hasExtras || ended }
      if lacksValue given then
        match rest with
        | .word text :: rest =>
          match r.note (withValue given text) with
          | .error ending => ofEnding ending
          | .ok r => ofClassified rest (arguments.drop 2) r
        | _ => usageError
      else
        match r.note given with
        | .error ending => ofEnding ending
        | .ok r => ofClassified rest arguments.tail r

/-- Reads the arguments of the admin command. -/
def ofArguments (arguments : List String) : Invocation :=
  let classified := classifyAll generalSwitches arguments
  if classified.contains .ambiguousSwitch then usageError
  else ofClassified classified arguments {}

end Invocation

end IssueDispatch.Admin
