import IssueDispatch.Yaml.Text

/-!
# Tokens of a YAML text

`Token.ofText?` cuts a text into tokens.  The structure of the block style is made explicit on the
way: a collection opens with a token of its own where the indentation grows and is closed by
`blockEnd` where the indentation shrinks again.  That a scalar is the key of a mapping is known only
when its colon is met, so the tokens in front of a key are inserted afterwards, at a place that was
remembered as a `PossibleKey`.
-/

namespace IssueDispatch.Yaml

/-- What a directive at the head of a document says. -/
inductive Directive where
  | version (major : Nat)
  | tagHandle (handle expansion : String)
  | other
deriving DecidableEq, Repr

/-- A tag as written: a handle with a suffix, or the whole tag alone. -/
structure WrittenTag where
  handle : Option String
  suffix : String
deriving DecidableEq, Repr

/-- A piece of a YAML text. -/
inductive Token where
  | directive (d : Directive)
  | documentStart
  | documentEnd
  | sequenceStart
  | mappingStart
  | blockEnd
  | flowSequenceStart
  | flowSequenceEnd
  | flowMappingStart
  | flowMappingEnd
  | blockEntry
  | flowEntry
  | key
  | value
  | alias (name : String)
  | anchor (name : String)
  | tag (t : WrittenTag)
  | scalar (text : String) (isPlain : Bool)
deriving DecidableEq, Repr

/-! ### Readers of single tokens -/

namespace Cursor

/-- Reads a name of letters, digits, hyphens and underscores. -/
def name? (c : Cursor) : Option (String × Cursor) :=
  match c.takeWhile isNameChar with
  | ([], _) => none
  | (cs, c) => some (String.ofList cs, c)

/-- Reads a number written with ASCII digits. -/
def number? (c : Cursor) : Option (Nat × Cursor) :=
  match c.takeWhile Text.isAsciiDigit with
  | ([], _) => none
  | (cs, c) => some (ofDigits (Json.digitValues cs), c)

/-- Reads a tag handle: an exclamation mark alone, or a name between two of them. -/
def tagHandle? (c : Cursor) : Option (String × Cursor) :=
  if !c.isAt '!' then none
  else
    let (cs, after) := c.next.takeWhile isNameChar
    if after.isAt '!' then some ("!" ++ String.ofList cs ++ "!", after.next)
    else if c.peekAt 1 == some ' ' then some ("!", c.next)
    else none

/-- Whether a character may stand in a tag as it is. -/
def isUriChar (c : Char) : Bool :=
  c.isAlphanum || "-;/?:@&=+$,_.!~*'()[]".toList.contains c

/-- Reads the bytes of escapes that follow each other: a percent sign and two hexadecimal digits
each. -/
def uriBytes? (fuel : Nat) (c : Cursor) (bytes : ByteArray) : Option (ByteArray × Cursor) :=
  match fuel, c.rest with
  | fuel + 1, '%' :: a :: b :: _ => do
    let code ← Json.hexNumber? [a, b]
    uriBytes? fuel (c.advance 3) (bytes.push code.toUInt8)
  | _, '%' :: _ => none
  | _, _ => some (bytes, c)

/-- Reads the characters of a tag. -/
def uriRest? (fuel : Nat) (c : Cursor) (out : String) : Option (String × Cursor) :=
  match fuel with
  | 0 => none
  | fuel + 1 =>
    let (cs, c) := c.takeWhile isUriChar
    let out := out ++ String.ofList cs
    if c.isAt '%' then do
      let (bytes, c) ← uriBytes? (c.rest.length + 1) c .empty
      let chars ← String.fromUTF8? bytes
      uriRest? fuel c (out ++ chars)
    else some (out, c)

/-- Reads the characters of a tag, of which there must be one. -/
def uri? (c : Cursor) : Option (String × Cursor) := do
  let (out, c) ← uriRest? (c.rest.length + 1) c ""
  if out.isEmpty then none else return (out, c)

/-- Reads a tag. -/
def tag? (c : Cursor) : Option (WrittenTag × Cursor) := do
  let (tag, c) ←
    if c.peekAt 1 == some '<' then do
      let (suffix, c) ← (c.advance 2).uri?
      if c.isAt '>' then some (⟨none, suffix⟩, c.next) else none
    else if isBlankOrEnd (c.peekAt 1) then some (⟨none, "!"⟩, c.next)
    else do
      let word := c.next.rest.takeWhile fun x => x != ' ' && !isBreak x
      let (handle, c) ← if word.contains '!' then c.tagHandle? else some ("!", c.next)
      let (suffix, c) ← c.uri?
      some (⟨some handle, suffix⟩, c)
  if isSpaceOrEnd c.peek then return (tag, c) else none

/-- Reads the name of an anchor or an alias after its mark. -/
def anchorName? (c : Cursor) : Option (String × Cursor) := do
  let (name, c) ← c.next.name?
  if isBlankOrEnd c.peek || (c.peek.any fun x => "?:,]\x7d%@`".toList.contains x) then
    return (name, c)
  else none

/-- Reads a directive after its percent sign, up to the end of its line. -/
def directive? (c : Cursor) : Option (Directive × Cursor) := do
  let (name, c) ← c.next.name?
  if !isSpaceOrEnd c.peek then none
  let (directive, c) ←
    if name = "YAML" then do
      let (major, c) ← c.skipSpaces.number?
      if !c.isAt '.' then none
      let (_, c) ← c.next.number?
      if isSpaceOrEnd c.peek then some (Directive.version major, c) else none
    else if name = "TAG" then do
      let (handle, c) ← c.skipSpaces.tagHandle?
      if !c.isAt ' ' then none
      let (expansion, c) ← c.skipSpaces.uri?
      if isSpaceOrEnd c.peek then some (Directive.tagHandle handle expansion, c) else none
    else some (Directive.other, c.dropWhile fun x => !isBreak x)
  let c ← c.ignoredLine?
  return (directive, c)

end Cursor

/-! ### Cutting a text into tokens -/

/-- A place among the tokens where a key may turn out to begin. -/
structure PossibleKey where
  token : Nat
  required : Bool
  index : Nat
  line : Nat
  column : Nat

/-- How far a text has been cut. -/
structure Lexer where
  cursor : Cursor
  tokens : List Token := []
  /-- The number of flow collections around the cursor. -/
  flowDepth : Nat := 0
  /-- The column of the block collection around the cursor, and of those around that one. -/
  indent : Int := -1
  outerIndents : List Int := []
  /-- Whether a key may begin at the cursor. -/
  keyAllowed : Bool := true
  /-- At most one possible key for each depth of flow collections. -/
  possibleKeys : List (Nat × PossibleKey) := []

namespace Lexer

/-- The longest key that need not be marked by a question mark. -/
def maxKeyLength : Nat := 1024

/-- Adds a token at the end. -/
def push (l : Lexer) (t : Token) : Lexer := { l with tokens := l.tokens ++ [t] }

/-- Whether the cursor stands in a flow collection. -/
def inFlow (l : Lexer) : Bool := l.flowDepth != 0

/-- Forgets the possible keys that are too far back; one that had to be a key is an error. -/
def dropStaleKeys? (l : Lexer) : Option Lexer :=
  let isStale (k : PossibleKey) : Bool :=
    k.line != l.cursor.line || decide (maxKeyLength < l.cursor.index - k.index)
  if l.possibleKeys.any fun k => isStale k.2 && k.2.required then none
  else some { l with possibleKeys := l.possibleKeys.filter fun k => !isStale k.2 }

/-- Forgets the possible key of the current depth; one that had to be a key is an error. -/
def dropKey? (l : Lexer) : Option Lexer :=
  if l.possibleKeys.any fun k => k.1 == l.flowDepth && k.2.required then none
  else some { l with possibleKeys := l.possibleKeys.filter fun k => k.1 != l.flowDepth }

/-- Remembers that a key may begin at the cursor. -/
def saveKey? (l : Lexer) : Option Lexer :=
  if !l.keyAllowed then some l
  else do
    let c := l.cursor
    let required := !l.inFlow && l.indent == (c.column : Int)
    let l ← l.dropKey?
    let key : PossibleKey := ⟨l.tokens.length, required, c.index, c.line, c.column⟩
    return { l with possibleKeys := (l.flowDepth, key) :: l.possibleKeys }

/-- Closes the block collections that are indented further than a column. -/
def closeBlocks (column : Int) (l : Lexer) : Lexer :=
  if l.inFlow then l
  else
    let rec close (indent : Int) (outer : List Int) (tokens : List Token) : Lexer :=
      match outer with
      | next :: outer =>
        if column < indent then close next outer (tokens ++ [.blockEnd])
        else { l with indent, outerIndents := next :: outer, tokens }
      | [] => { l with indent, outerIndents := [], tokens }
    close l.indent l.outerIndents l.tokens

/-- Opens a block collection at a column that is further in, inserting its token at a place. -/
def openBlock (l : Lexer) (column place : Nat) (t : Token) : Lexer :=
  if l.indent < (column : Int) then
    { l with
      indent := column
      outerIndents := l.indent :: l.outerIndents
      tokens := l.tokens.insertIdx place t }
  else l

/-- Moves past blanks, comments and line breaks. -/
def skipToToken (fuel : Nat) (l : Lexer) : Lexer :=
  match fuel with
  | 0 => l
  | fuel + 1 =>
    let c := l.cursor.skipSpaces.skipComment
    match c.lineBreak? with
    | some (_, c) =>
      skipToToken fuel { l with cursor := c, keyAllowed := l.keyAllowed || !l.inFlow }
    | none => { l with cursor := c }

/-- Adds a token that stands between documents. -/
def pushMark? (l : Lexer) (t : Token) (c : Cursor) : Option Lexer := do
  let l ← (l.closeBlocks (-1)).dropKey?
  return { l.push t with keyAllowed := false, cursor := c }

/-- Adds a token that can begin a key. -/
def pushContent? (l : Lexer) (read? : Cursor → Option (Token × Cursor)) : Option Lexer := do
  let l ← l.saveKey?
  let (t, c) ← read? l.cursor
  return { l.push t with keyAllowed := false, cursor := c }

/-- Adds the opening of a flow collection. -/
def openFlow? (l : Lexer) (t : Token) : Option Lexer := do
  let l ← l.saveKey?
  return { l.push t with
    flowDepth := l.flowDepth + 1
    keyAllowed := true
    cursor := l.cursor.next }

/-- Adds the end of a flow collection, which must have been opened. -/
def closeFlow? (l : Lexer) (t : Token) : Option Lexer := do
  let l ← l.dropKey?
  if !l.inFlow then none
  return { l.push t with
    flowDepth := l.flowDepth - 1
    keyAllowed := false
    cursor := l.cursor.next }

/-- Adds the comma of a flow collection. -/
def flowEntry? (l : Lexer) : Option Lexer := do
  let l ← l.dropKey?
  return { l.push .flowEntry with keyAllowed := true, cursor := l.cursor.next }

/-- Opens a block collection for an entry that begins at the cursor, where one may begin. -/
def openBlockHere? (l : Lexer) (t : Token) : Option Lexer :=
  if l.inFlow then some l
  else if !l.keyAllowed then none
  else some (l.openBlock l.cursor.column l.tokens.length t)

/-- Adds the hyphen of a block sequence. -/
def blockEntry? (l : Lexer) : Option Lexer := do
  let l ← (← l.openBlockHere? .sequenceStart).dropKey?
  return { l.push .blockEntry with keyAllowed := true, cursor := l.cursor.next }

/-- Adds the question mark of a key. -/
def key? (l : Lexer) : Option Lexer := do
  let l ← (← l.openBlockHere? .mappingStart).dropKey?
  return { l.push .key with keyAllowed := !l.inFlow, cursor := l.cursor.next }

/-- Adds the colon of a value, and the tokens that belong in front of its key. -/
def value? (l : Lexer) : Option Lexer := do
  let l ← match l.possibleKeys.find? fun k => k.1 == l.flowDepth with
    | some (_, key) =>
      let l := { l with
        possibleKeys := l.possibleKeys.filter fun k => k.1 != l.flowDepth
        tokens := l.tokens.insertIdx key.token .key
        keyAllowed := false }
      some (if l.inFlow then l else l.openBlock key.column key.token .mappingStart)
    | none => do
      let l ← (← l.openBlockHere? .mappingStart).dropKey?
      some { l with keyAllowed := !l.inFlow }
  return { l.push .value with cursor := l.cursor.next }

/-- Adds a block scalar. -/
def blockScalar? (l : Lexer) (folded : Bool) : Option Lexer := do
  let l ← l.dropKey?
  let (text, c) ← l.cursor.block? folded l.indent
  return { l.push (.scalar text false) with keyAllowed := true, cursor := c }

/-- Adds a plain scalar.  After a line break a key may begin again. -/
def plainScalar? (l : Lexer) : Option Lexer := do
  let l ← l.saveKey?
  let (text, broken, c) := l.cursor.plain l.inFlow l.indent
  return { l.push (.scalar text true) with keyAllowed := broken, cursor := c }

/-- Whether a plain scalar begins at the cursor. -/
def atPlain (l : Lexer) : Bool :=
  match l.cursor.peek with
  | none => false
  | some x =>
    let isIndicator := isBlankOrEnd (some x) || "-?:,[]\x7b\x7d#&*!|>'\"%@`".toList.contains x
    !isIndicator ||
      (!isBlankOrEnd (l.cursor.peekAt 1) && (x == '-' || (!l.inFlow && (x == '?' || x == ':'))))

/-- Adds the token that begins with a given character at the cursor. -/
def tokenAt? (l : Lexer) (x : Char) : Option Lexer :=
  let c := l.cursor
  let spaced := isBlankOrEnd (c.peekAt 1)
  if x = '%' ∧ c.column = 0 then
    (c.directive?).bind fun (d, c) => l.pushMark? (.directive d) c
  else if x = '-' ∧ c.column = 0 ∧ c.isDocumentMark = true then
    l.pushMark? .documentStart (c.advance 3)
  else if x = '.' ∧ c.column = 0 ∧ c.isDocumentMark = true then
    l.pushMark? .documentEnd (c.advance 3)
  else if x = '[' then l.openFlow? .flowSequenceStart
  else if x = '\x7b' then l.openFlow? .flowMappingStart
  else if x = ']' then l.closeFlow? .flowSequenceEnd
  else if x = '\x7d' then l.closeFlow? .flowMappingEnd
  else if x = ',' then l.flowEntry?
  else if x = '-' ∧ spaced = true then l.blockEntry?
  else if x = '?' ∧ (l.inFlow || spaced) = true then l.key?
  else if x = ':' ∧ (l.inFlow || spaced) = true then l.value?
  else if x = '*' then l.pushContent? fun c => c.anchorName?.map fun (n, c) => (.alias n, c)
  else if x = '&' then l.pushContent? fun c => c.anchorName?.map fun (n, c) => (.anchor n, c)
  else if x = '!' then l.pushContent? fun c => c.tag?.map fun (t, c) => (.tag t, c)
  else if (x = '|' ∨ x = '>') ∧ l.inFlow = false then l.blockScalar? (x == '>')
  else if x = '\'' ∨ x = '"' then
    l.pushContent? fun c => (c.quoted? (x == '"')).map fun (s, c) => (.scalar s false, c)
  else if l.atPlain then l.plainScalar?
  else none

/-- Cuts the rest of the text.  Every token but the ones that close blocks takes a character, which
bounds the fuel. -/
def finish? (fuel : Nat) (l : Lexer) : Option (List Token) :=
  match fuel with
  | 0 => none
  | fuel + 1 => do
    let l ← (l.skipToToken (l.cursor.rest.length + 1)).dropStaleKeys?
    let l := l.closeBlocks l.cursor.column
    match l.cursor.peek with
    | none => return (← (l.closeBlocks (-1)).dropKey?).tokens
    | some x => (← l.tokenAt? x).finish? fuel

end Lexer

/-- The lines of a text, each ended by a line feed where a carriage return took part in ending
it. -/
def normalBreaks : List Char → List Char
  | '\r' :: '\n' :: rest => '\n' :: normalBreaks rest
  | '\r' :: rest => '\n' :: normalBreaks rest
  | c :: rest => c :: normalBreaks rest
  | [] => []

/-- Cuts a text into tokens.  A byte order mark at its beginning is passed over. -/
def Token.ofText? (text : String) : Option (List Token) :=
  let cs := normalBreaks text.toList
  if !cs.all isAllowed then none
  else
    let c : Cursor := ⟨cs, 0, 0, 0⟩
    Lexer.finish? (cs.length + 1) { cursor := if c.isAt '\uFEFF' then c.next else c }

end IssueDispatch.Yaml
