/-!
# Positions in a YAML text

A `Cursor` stands at a place of a text and knows its line and column, on which the structure of a
YAML document depends.
-/

namespace IssueDispatch.Yaml

/-- Whether a character breaks a line. -/
def isBreak (c : Char) : Bool :=
  c = '\n' ∨ c = '\u0085' ∨ c = '\u2028' ∨ c = '\u2029'

/-- The end of the text or a line break. -/
def isBreakOrEnd : Option Char → Bool
  | none => true
  | some c => isBreak c

/-- The end of the text, a line break or a space. -/
def isSpaceOrEnd : Option Char → Bool
  | none => true
  | some c => c = ' ' || isBreak c

/-- The end of the text, a line break, a space or a tab. -/
def isBlankOrEnd : Option Char → Bool
  | none => true
  | some c => c = ' ' || c = '\t' || isBreak c

/-- Whether a character can be part of a YAML text at all. -/
def isAllowed (c : Char) : Bool :=
  let n := c.toNat
  n = 9 || n = 10 || n = 13 || (0x20 ≤ n && n ≤ 0x7E) || n = 0x85 || (0xA0 ≤ n && n ≤ 0xD7FF) ||
    (0xE000 ≤ n && n ≤ 0xFFFD) || 0x10000 ≤ n

/-- Letters, digits, hyphens and underscores of the ASCII range. -/
def isNameChar (c : Char) : Bool := c.isAlphanum || c = '-' || c = '_'

/-- A place of a text: what follows, how many characters came before, and the line and column. -/
structure Cursor where
  rest : List Char
  index : Nat := 0
  line : Nat := 0
  column : Nat := 0

namespace Cursor

/-- The next character. -/
def peek (c : Cursor) : Option Char := c.rest.head?

/-- The character some places ahead. -/
def peekAt (c : Cursor) (n : Nat) : Option Char := c.rest[n]?

/-- Whether the next character is a given one. -/
def isAt (c : Cursor) (char : Char) : Bool := c.peek == some char

/-- Moves one character on.  A byte order mark takes no column. -/
def next (c : Cursor) : Cursor :=
  match c.rest with
  | [] => c
  | x :: rest =>
    if isBreak x then ⟨rest, c.index + 1, c.line + 1, 0⟩
    else ⟨rest, c.index + 1, c.line, if x = '\uFEFF' then c.column else c.column + 1⟩

/-- Moves some characters on. -/
def advance (c : Cursor) : Nat → Cursor
  | 0 => c
  | n + 1 => c.next.advance n

/-- Moves past the characters that satisfy a test, and gives them. -/
def takeWhile (c : Cursor) (p : Char → Bool) : List Char × Cursor :=
  let taken := c.rest.takeWhile p
  (taken, c.advance taken.length)

/-- Moves past the characters that satisfy a test. -/
def dropWhile (c : Cursor) (p : Char → Bool) : Cursor := (c.takeWhile p).2

/-- Moves past spaces. -/
def skipSpaces (c : Cursor) : Cursor := c.dropWhile (· == ' ')

/-- Moves to the end of the line if a comment begins here. -/
def skipComment (c : Cursor) : Cursor :=
  if c.isAt '#' then c.dropWhile fun x => !isBreak x else c

/-- The line break at this place, as it counts in a scalar, and the place after it. -/
def lineBreak? (c : Cursor) : Option (Char × Cursor) :=
  match c.peek with
  | some x => if isBreak x then some (if x = '\u0085' then '\n' else x, c.next) else none
  | none => none

/-- Whether a mark of three characters that begins or ends a document stands here. -/
def isDocumentMark (c : Cursor) : Bool :=
  (['-', '-', '-'].isPrefixOf c.rest || ['.', '.', '.'].isPrefixOf c.rest) &&
    isBlankOrEnd (c.peekAt 3)

end Cursor

end IssueDispatch.Yaml
