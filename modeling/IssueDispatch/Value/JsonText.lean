import IssueDispatch.Value.Json

/-!
# Writing JSON

`Json.text` writes a value as a JSON text: on one line, with a space after each comma and each
colon, and in printable ASCII only.  Every other character is escaped, by one letter if there is one
for it, and else by the digits of its code; a code of more than sixteen bits becomes a surrogate
pair.  A decimal number has a fraction or an exponent, so that it does not read back as a whole one;
numbers that JSON has no numeral for are written as `NaN`, `Infinity` and `-Infinity`, as
`Json.read?` takes them.  A pair is written like a list.

Bytes, dates, moments and sets have no JSON text, and neither they nor pairs can be the names of
fields.  `Json.refusal?` says what is wrong with a value.
-/

namespace IssueDispatch.Json

/-- The letter of the short escape of a character. -/
def shortEscapeLetter? (c : Char) : Option Char :=
  match c with
  | '"' => some '"'
  | '\\' => some '\\'
  | '\x08' => some 'b'
  | '\x0c' => some 'f'
  | '\n' => some 'n'
  | '\r' => some 'r'
  | '\t' => some 't'
  | _ => none

/-- The escape of a code of at most sixteen bits. -/
def codeEscape (code : Nat) : List Char := '\\' :: 'u' :: Text.hexDigits 4 code

/-- A character inside a JSON text. -/
def escape (c : Char) : List Char :=
  match shortEscapeLetter? c with
  | some letter => ['\\', letter]
  | none =>
    if 32 ≤ c.toNat ∧ c.toNat < 127 then [c]
    else if c.toNat < 0x10000 then codeEscape c.toNat
    else
      let offset := c.toNat - 0x10000
      codeEscape (0xD800 + offset / 0x400) ++ codeEscape (0xDC00 + offset % 0x400)

/-- A text in quotation marks. -/
def quoted (s : String) : String := String.ofList ('"' :: (s.toList.flatMap escape ++ ['"']))

/-- A decimal number. -/
def decimalText : Binary64 → String
  | .nan => "NaN"
  | .infinity negative => if negative then "-Infinity" else "Infinity"
  | x => x.shortest

/-- The name of a field.  A key that is no text is named by its own JSON text. -/
def fieldName : Value → String
  | .null => "null"
  | .bool b => if b then "true" else "false"
  | .int n => Text.decimalInt n
  | .float x => decimalText x
  | v => v.text

/-- The name of a kind of values that JSON does not have. -/
def foreignKind? : Value → Option String
  | .bytes _ => some "bytes"
  | .date _ => some "date"
  | .moment .. => some "datetime"
  | .set _ => some "set"
  | _ => none

/-- Why a key is no name of a field. -/
def keyRefusal? (key : Value) : Option String :=
  let kind? := match key with
    | .pair .. => some "tuple"
    | key => foreignKind? key
  kind?.map ("keys must be str, int, float, bool or None, not " ++ ·)

mutual

/-- Why a value has no JSON text, if it has none. -/
def refusal? : Value → Option String
  | .pair a b => refusal? a <|> refusal? b
  | .list items => itemRefusal? items
  | .object fields => fieldRefusal? fields
  | v => (foreignKind? v).map ("Object of type " ++ · ++ " is not JSON serializable")

/-- Why the first item that has no JSON text has none. -/
def itemRefusal? : List Value → Option String
  | [] => none
  | x :: xs => refusal? x <|> itemRefusal? xs

/-- Why the first field that has no JSON text has none. -/
def fieldRefusal? : List (Value × Value) → Option String
  | [] => none
  | (key, x) :: xs => keyRefusal? key <|> refusal? x <|> fieldRefusal? xs

end

mutual

/-- Writes a value that is not refused; of one that is, a part without a JSON text stands as its
literal. -/
def text : Value → String
  | .null => "null"
  | .bool b => if b then "true" else "false"
  | .int n => Text.decimalInt n
  | .float x => decimalText x
  | .str s => quoted s
  | .bytes b => quoted (Text.quoteBytes b)
  | .date d => quoted d.literal
  | .moment m offset? => quoted (m.literal offset?)
  | .list items | .set items => "[" ++ ", ".intercalate (itemTexts items) ++ "]"
  | .pair a b => "[" ++ text a ++ ", " ++ text b ++ "]"
  | .object fields => "\x7b" ++ ", ".intercalate (fieldTexts fields) ++ "\x7d"

/-- Writes the items of a list. -/
def itemTexts : List Value → List String
  | [] => []
  | x :: xs => text x :: itemTexts xs

/-- Writes the fields of an object. -/
def fieldTexts : List (Value × Value) → List String
  | [] => []
  | (key, x) :: xs => (quoted (fieldName key) ++ ": " ++ text x) :: fieldTexts xs

end

end IssueDispatch.Json
