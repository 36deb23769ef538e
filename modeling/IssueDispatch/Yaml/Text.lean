import IssueDispatch.Value.Json
import IssueDispatch.Yaml.Cursor

/-!
# Scalars in a YAML text

The written forms of a scalar: plain, in single or double quotation marks, and as a block.  Each
reader starts at the first character of the scalar and gives its text and the place after it.  Line
breaks inside a scalar are folded: a single one counts as a space and further ones as themselves.
-/

namespace IssueDispatch.Yaml

namespace Cursor

/-- Reads line breaks, each followed by spaces and tabs; a document must not begin or end there. -/
def quotedBreaks? (fuel : Nat) (c : Cursor) (breaks : List Char) : Option (List Char × Cursor) :=
  match fuel with
  | 0 => none
  | fuel + 1 =>
    if c.isDocumentMark then none
    else
      let c := c.dropWhile fun x => x = ' ' || x = '\t'
      match c.lineBreak? with
      | some (b, c) => quotedBreaks? fuel c (breaks ++ [b])
      | none => some (breaks, c)

/-- The text of line breaks that have been read: the first one is a space when it stands alone. -/
def foldedBreaks (first : Char) (breaks : List Char) : List Char :=
  (if first != '\n' then [first] else if breaks.isEmpty then [' '] else []) ++ breaks

/-- Reads the blanks inside a quoted scalar. -/
def quotedBlanks? (c : Cursor) : Option (List Char × Cursor) :=
  let (blanks, c) := c.takeWhile fun x => x = ' ' || x = '\t'
  match c.peek with
  | none => none
  | some _ =>
    match c.lineBreak? with
    | some (first, c) =>
      (quotedBreaks? (c.rest.length + 1) c []).map fun (breaks, c) => (foldedBreaks first breaks, c)
    | none => some (blanks, c)

/-- The character for an escape of one letter. -/
def escapedChar? (c : Char) : Option Char :=
  match c with
  | '0' => some '\x00'
  | 'a' => some '\x07'
  | 'b' => some '\x08'
  | 't' | '\t' => some '\t'
  | 'n' => some '\n'
  | 'v' => some '\x0b'
  | 'f' => some '\x0c'
  | 'r' => some '\r'
  | 'e' => some '\x1b'
  | ' ' => some ' '
  | '"' => some '"'
  | '\\' => some '\\'
  | '/' => some '/'
  | 'N' => some '\u0085'
  | '_' => some '\u00A0'
  | 'L' => some '\u2028'
  | 'P' => some '\u2029'
  | _ => none

/-- The number of hexadecimal digits after the letter of an escape. -/
def escapeWidth? (c : Char) : Option Nat :=
  match c with
  | 'x' => some 2
  | 'u' => some 4
  | 'U' => some 8
  | _ => none

/-- Reads an escape in a double-quoted scalar, after its backslash. -/
def quotedEscape? (c : Cursor) : Option (List Char × Cursor) := do
  let x ← c.peek
  match escapedChar? x with
  | some char => return ([char], c.next)
  | none =>
    match escapeWidth? x with
    | some width =>
      let digits := c.next.rest.take width
      let code ← Json.hexNumber? digits
      if digits.length = width ∧ code < 0x110000 then
        return ([Char.ofNat code], c.next.advance width)
      else none
    | none =>
      let (_, c) ← c.lineBreak?
      quotedBreaks? (c.rest.length + 1) c []

/-- Reads a quoted scalar after its opening mark. -/
def quotedRest? (fuel : Nat) (double : Bool) (c : Cursor) (out : List Char) :
    Option (String × Cursor) :=
  match fuel with
  | 0 => none
  | fuel + 1 =>
    match c.peek with
    | none => none
    | some x =>
      if x = ' ' ∨ x = '\t' ∨ isBreak x = true then do
        let (blanks, c) ← c.quotedBlanks?
        quotedRest? fuel double c (out ++ blanks)
      else if !double ∧ x = '\'' then
        if c.peekAt 1 = some '\'' then quotedRest? fuel double (c.advance 2) (out ++ ['\''])
        else some (String.ofList out, c.next)
      else if double ∧ x = '"' then some (String.ofList out, c.next)
      else if double ∧ x = '\\' then do
        let (chars, c) ← c.next.quotedEscape?
        quotedRest? fuel double c (out ++ chars)
      else
        let special (x : Char) : Bool :=
          x = '\'' || x = '"' || x = '\\' || x = ' ' || x = '\t' || isBreak x
        let (run, after) := c.takeWhile fun x => !special x
        if run.isEmpty then quotedRest? fuel double c.next (out ++ [x])
        else quotedRest? fuel double after (out ++ run)

/-- Reads a quoted scalar. -/
def quoted? (double : Bool) (c : Cursor) : Option (String × Cursor) :=
  quotedRest? (c.rest.length + 1) double c.next []

/-! ### Plain scalars -/

/-- The number of characters of a plain scalar on the current line before a blank. -/
def plainLength (inFlow : Bool) : List Char → Nat
  | [] => 0
  | x :: rest =>
    let ends :=
      isBlankOrEnd (some x) ||
      (x = ':' && (isBlankOrEnd rest.head? ||
        (inFlow && ([',', '[', ']', '\x7b', '\x7d'].any fun y => rest.head? == some y)))) ||
      (inFlow && [',', '?', '[', ']', '\x7b', '\x7d'].contains x)
    if ends then 0 else plainLength inFlow rest + 1

/-- Reads further line breaks and spaces after the first line break in a plain scalar; nothing when
a document begins or ends there. -/
def plainBreaks (fuel : Nat) (c : Cursor) (breaks : List Char) : Option (List Char) × Cursor :=
  match fuel with
  | 0 => (none, c)
  | fuel + 1 =>
    if c.isAt ' ' then plainBreaks fuel c.next breaks
    else
      match c.lineBreak? with
      | some (b, c) =>
        if c.isDocumentMark then (none, c) else plainBreaks fuel c (breaks ++ [b])
      | none => (some breaks, c)

/-- Reads the blanks inside a plain scalar: what they count as, whether a line was broken, and the
place after them. -/
def plainBlanks (c : Cursor) : List Char × Bool × Cursor :=
  let (spaces, c) := c.takeWhile (· == ' ')
  match c.lineBreak? with
  | none => (spaces, false, c)
  | some (first, c) =>
    if c.isDocumentMark then ([], true, c)
    else
      match plainBreaks (c.rest.length + 1) c [] with
      | (some breaks, c) => (foldedBreaks first breaks, true, c)
      | (none, c) => ([], true, c)

/-- Reads the parts of a plain scalar; `indent` is the least column of its further lines. -/
def plainRest (fuel : Nat) (inFlow : Bool) (indent : Int) (c : Cursor) (out blanks : List Char)
    (broken : Bool) : String × Bool × Cursor :=
  let finished := (String.ofList out, broken, c)
  match fuel with
  | 0 => finished
  | fuel + 1 =>
    if c.isAt '#' then finished
    else
      let n := plainLength inFlow c.rest
      if n = 0 then finished
      else
        let out := out ++ blanks ++ c.rest.take n
        let (blanks, lineBroken, c) := (c.advance n).plainBlanks
        if blanks.isEmpty || c.isAt '#' || (!inFlow && decide ((c.column : Int) < indent)) then
          (String.ofList out, lineBroken, c)
        else plainRest fuel inFlow indent c out blanks lineBroken

/-- Reads a plain scalar: its text, whether it was followed by a line break, and the place after
it. -/
def plain (inFlow : Bool) (indent : Int) (c : Cursor) : String × Bool × Cursor :=
  plainRest (c.rest.length + 1) inFlow (indent + 1) c [] [] false

/-! ### Block scalars -/

/-- The indicators of a block scalar: whether the line breaks at its end are kept (`+`) or dropped
(`-`), and its indentation. -/
def blockIndicators? (c : Cursor) : Option (Option Bool × Option Nat × Cursor) := do
  let chomping (c : Cursor) : Option Bool × Cursor :=
    match c.peek with
    | some '+' => (some true, c.next)
    | some '-' => (some false, c.next)
    | _ => (none, c)
  let increment? (c : Cursor) : Option (Option Nat × Cursor) :=
    match c.peek with
    | some x =>
      if Text.isAsciiDigit x then
        if x = '0' then none else some (some (x.toNat - 48), c.next)
      else some (none, c)
    | none => some (none, c)
  let (keep, afterKeep) := chomping c
  let (increment, c) ← increment? afterKeep
  let (keep, c) := if keep.isNone then chomping c else (keep, c)
  if isSpaceOrEnd c.peek then return (keep, increment, c) else none

/-- Moves past the rest of a line that may hold a comment only. -/
def ignoredLine? (c : Cursor) : Option Cursor :=
  let c := c.skipSpaces.skipComment
  if isBreakOrEnd c.peek then
    match c.lineBreak? with
    | some (_, c) => some c
    | none => some c
  else none

/-- Reads the empty lines before a block scalar, and the widest indentation met. -/
def blockIndentation (fuel : Nat) (c : Cursor) (breaks : List Char) (widest : Nat) :
    List Char × Nat × Cursor :=
  match fuel with
  | 0 => (breaks, widest, c)
  | fuel + 1 =>
    match c.lineBreak? with
    | some (b, c) => blockIndentation fuel c (breaks ++ [b]) widest
    | none =>
      if c.isAt ' ' then
        let c := c.next
        blockIndentation fuel c breaks (max widest c.column)
      else (breaks, widest, c)

/-- Moves past spaces up to a column. -/
def skipIndent (indent : Nat) (c : Cursor) : Cursor :=
  c.advance ((c.rest.takeWhile (· == ' ')).length.min (indent - c.column))

/-- Reads the empty lines inside a block scalar. -/
def blockBreaks (fuel : Nat) (indent : Nat) (c : Cursor) (breaks : List Char) :
    List Char × Cursor :=
  let c := c.skipIndent indent
  match fuel with
  | 0 => (breaks, c)
  | fuel + 1 =>
    match c.lineBreak? with
    | some (b, c) => blockBreaks fuel indent c (breaks ++ [b])
    | none => (breaks, c)

/-- Reads the lines of a block scalar.  In the folded style a line break between two lines that do
not begin with a blank counts as a space, or as nothing before empty lines. -/
def blockLines (fuel : Nat) (folded : Bool) (indent : Nat) (c : Cursor) (out breaks lastBreak :
    List Char) : List Char × List Char × List Char × Cursor :=
  match fuel with
  | 0 => (out, breaks, lastBreak, c)
  | fuel + 1 =>
    if c.column = indent ∧ c.peek.isSome then
      let isBlank (x : Option Char) : Bool := x == some ' ' || x == some '\t'
      let leading := !isBlank c.peek
      let (line, c) := c.takeWhile fun x => !isBreak x
      let out := out ++ breaks ++ line
      let (lastBreak, c) := match c.lineBreak? with
        | some (b, c) => ([b], c)
        | none => ([], c)
      let (breaks, c) := blockBreaks (c.rest.length + 1) indent c []
      if c.column = indent ∧ c.peek.isSome then
        let joint :=
          if folded && lastBreak == ['\n'] && leading && !isBlank c.peek then
            (if breaks.isEmpty then [' '] else [])
          else lastBreak
        blockLines fuel folded indent c (out ++ joint) breaks lastBreak
      else (out, breaks, lastBreak, c)
    else (out, breaks, lastBreak, c)

/-- Reads a block scalar; `outer` is the indentation around it. -/
def block? (folded : Bool) (outer : Int) (c : Cursor) : Option (String × Cursor) := do
  let (keep, increment, c) ← c.next.blockIndicators?
  let c ← c.ignoredLine?
  let least := (max 1 (outer + 1)).toNat
  let fuel := c.rest.length + 1
  let (breaks, indent, c) := match increment with
    | none =>
      let (breaks, widest, c) := blockIndentation fuel c [] 0
      (breaks, max least widest, c)
    | some n =>
      let indent := least + n - 1
      let (breaks, c) := blockBreaks fuel indent c []
      (breaks, indent, c)
  let (out, breaks, lastBreak, c) := blockLines fuel folded indent c [] breaks []
  let out := if keep = some false then out else out ++ lastBreak
  let out := if keep = some true then out ++ breaks else out
  return (String.ofList out, c)

end Cursor

end IssueDispatch.Yaml
