import IssueDispatch.Value.Json
import IssueDispatch.Yaml.Timestamp

/-!
# The meaning of YAML scalars

A scalar that carries no tag and stands without quotation marks has the tag that its text calls for,
`Tag.ofPlain`: words for truth values and the null, whole numbers to base two, eight, ten, sixteen
or sixty, decimal numbers, which need a point, and time stamps.  `Tag.read` then gives the value.
Bytes are written to base 64 and always carry their tag.
-/

namespace IssueDispatch.Yaml

/-- The tags that a settings file can use.  `merge` and `value` mark keys of mappings. -/
inductive Tag where
  | null
  | bool
  | int
  | float
  | binary
  | timestamp
  | str
  | seq
  | omap
  | pairs
  | map
  | set
  | merge
  | value
  | unknown (name : String)
deriving DecidableEq, Repr

namespace Tag

/-- What the names of the standard tags begin with. -/
def standard : String := "tag:yaml.org,2002:"

/-- The standard tags that can be written out. -/
def named : List (String × Tag) := [("null", null), ("bool", bool), ("int", int), ("float", float),
  ("binary", binary), ("timestamp", timestamp), ("str", str), ("seq", seq), ("omap", omap),
  ("pairs", pairs), ("map", map), ("set", set), ("merge", merge), ("value", value)]

/-- The tag of a full name. -/
def ofName (name : String) : Tag :=
  match named.find? fun entry => standard ++ entry.1 == name with
  | some entry => entry.2
  | none => unknown name

/-! ### Forms of numbers -/

/-- The digits of numbers, between which underscores may stand. -/
def isGroupedDigit (c : Char) : Bool := Text.isAsciiDigit c || c = '_'

/-- The whole numbers `0`, or without a leading zero. -/
def isDecimalForm : List Char → Bool
  | ['0'] => true
  | c :: cs => Text.isAsciiDigit c && c != '0' && cs.all isGroupedDigit
  | [] => false

/-- A number below sixty, in one or two digits. -/
def isSixtieth : List Char → Bool
  | [a] => Text.isAsciiDigit a
  | [a, b] => decide ('0' ≤ a ∧ a ≤ '5') && Text.isAsciiDigit b
  | _ => false

/-- The parts of a text between colons. -/
def colonParts (cs : List Char) : List (List Char) :=
  ((String.ofList cs).splitOn ":").map String.toList

/-- The forms of unsigned whole numbers. -/
def isWholeForm (cs : List Char) : Bool :=
  let rest := cs.drop 2
  (['0', 'b'].isPrefixOf cs && !rest.isEmpty && rest.all fun c => "01_".toList.contains c) ||
  (['0', 'x'].isPrefixOf cs && !rest.isEmpty &&
    rest.all fun c => (Json.hexValue? c).isSome || c = '_') ||
  (match cs with
    | '0' :: c :: cs => (c :: cs).all fun c => "01234567_".toList.contains c
    | _ => false) ||
  isDecimalForm cs ||
  (match colonParts cs with
    | whole :: more :: parts =>
      isDecimalForm whole && whole != ['0'] && (more :: parts).all isSixtieth
    | _ => false)

/-- An exponent, which needs a sign. -/
def isExponentForm : List Char → Bool
  | [] => true
  | mark :: sign :: digits =>
    (mark = 'e' || mark = 'E') && (sign = '+' || sign = '-') && !digits.isEmpty &&
      digits.all Text.isAsciiDigit
  | _ => false

/-- Digits after a point, with an optional exponent. -/
def isFractionForm (cs : List Char) : Bool := isExponentForm (cs.dropWhile isGroupedDigit)

/-- Whether a text begins with a digit. -/
def startsWithDigit (cs : List Char) : Bool := cs.head?.any Text.isAsciiDigit

/-- The forms of decimal numbers after an optional sign. -/
def isPointForm (cs : List Char) : Bool :=
  let (whole, rest) := cs.span isGroupedDigit
  startsWithDigit whole &&
    match rest with
    | '.' :: fraction => isFractionForm fraction
    | ':' :: _ =>
      let (parts, fraction) := rest.span (· != '.')
      !fraction.isEmpty && (fraction.drop 1).all isGroupedDigit &&
        (colonParts (parts.drop 1)).all isSixtieth
    | _ => false

/-- The forms of decimal numbers. -/
def isRealForm (text : String) : Bool :=
  let cs := text.toList
  let unsigned := (takeSign cs).2
  isPointForm unsigned ||
    (match cs with
      | '.' :: fraction => startsWithDigit fraction && isFractionForm fraction
      | _ => false) ||
    ([".inf", ".Inf", ".INF"].contains (String.ofList unsigned)) ||
    [".nan", ".NaN", ".NAN"].contains text

/-- The words for truth values. -/
def truthWords : List (String × Bool) :=
  [("yes", true), ("no", false), ("true", true), ("false", false), ("on", true), ("off", false)]

/-- A word in the three ways it may be capitalised: not at all, its first letter, or all of it. -/
def capitalisations (word : String) : List String := [word, word.capitalize, word.toUpper]

/-- The tag that the text of a plain scalar calls for. -/
def ofPlain (text : String) : Tag :=
  if (truthWords.flatMap fun entry => capitalisations entry.1).contains text then bool
  else if isRealForm text then float
  else if isWholeForm (takeSign text.toList).2 then int
  else if text = "<<" then merge
  else if text = "" ∨ text = "~" ∨ (capitalisations "null").contains text then null
  else if Stamp.isForm text then timestamp
  else if text = "=" then value
  else str

/-! ### Values -/

/-- The number written by digits to a base, without underscores. -/
def readDigits? (base : Nat) (cs : List Char) : Option Nat :=
  if cs.isEmpty then none
  else cs.foldlM (fun n c =>
    (Json.hexValue? c).bind fun d => if d < base then some (base * n + d) else none) 0

/-- The value of parts to base sixty, the last of which counts ones. -/
def baseSixty (parts : List Int) : Int := parts.foldl (fun n d => 60 * n + d) 0

/-- Drops the underscores and splits off the sign; the text must not be empty. -/
def signAndDigits (text : String) : Except Fault (Bool × List Char) :=
  match text.toList.filter (· != '_') with
  | [] => .error .missingCell
  | cs => .ok (takeSign cs)

/-- Reads a whole number. -/
def readWhole (text : String) : Except Fault Int := do
  let unreadable {α : Type} : Except Fault α :=
    .error (.unreadableInteger (Text.quote text ++ " is no whole number"))
  let (negative, cs) ← signAndDigits text
  let digits (base : Nat) (cs : List Char) : Except Fault Int :=
    match readDigits? base cs with
    | some n => pure (n : Int)
    | none => unreadable
  let decimal (cs : List Char) : Except Fault Int := (Value.str (String.ofList cs)).toInt
  let n ← match cs with
    | [] => throw .missingCell
    | ['0'] => pure 0
    | '0' :: 'b' :: cs => digits 2 cs
    | '0' :: 'x' :: cs => digits 16 cs
    | '0' :: cs => digits 8 cs
    | cs => return baseSixty (← (colonParts cs).mapM decimal) * (if negative then -1 else 1)
  return if negative then -n else n

/-- Reads a decimal number; each part of a number to base sixty is one itself. -/
def readReal (text : String) : Except Fault Binary64 := do
  let (negative, cs) ← signAndDigits (Text.lowerAscii text)
  if cs.isEmpty then throw .missingCell
  let word := String.ofList cs
  let real (cs : List Char) : Except Fault Binary64 := (Value.str (String.ofList cs)).toBinary64
  let x ←
    if word = ".inf" then pure (Binary64.infinity false)
    else if word = ".nan" then pure .nan
    else if cs.contains ':' then do
      let parts ← (colonParts cs).mapM real
      let weighted := parts.reverse.zipIdx.map fun (part, place) =>
        (part.mul? (Binary64.ofInt (Nat.pow 60 place))).getD part
      pure (weighted.foldl (· + ·) Binary64.zero)
    else real cs
  return if negative then -x else x

/-- The value of a digit to base 64. -/
def sextet? (c : Char) : Option Nat :=
  if 'A' ≤ c ∧ c ≤ 'Z' then some (c.toNat - 65)
  else if 'a' ≤ c ∧ c ≤ 'z' then some (c.toNat - 71)
  else if '0' ≤ c ∧ c ≤ '9' then some (c.toNat + 4)
  else if c = '+' then some 62
  else if c = '/' then some 63
  else none

/-- Reads bytes to base 64, four digits to three bytes; other characters are passed over.  The
digits of the group that is being read are given in order, with the number of padding characters
that follow them. -/
def readSextets? (group : List Nat) (pads : Nat) : List Char → Option (List UInt8)
  | [] => if group.isEmpty then some [] else none
  | '=' :: cs =>
    match group with
    | [_, _] | [_, _, _] =>
      if 4 ≤ group.length + pads + 1 then some [] else readSextets? group (pads + 1) cs
    | _ => readSextets? group pads cs
  | c :: cs =>
    match sextet? c, group with
    | none, _ => readSextets? group pads cs
    | some n, [] => readSextets? [n] 0 cs
    | some n, [m] => (readSextets? [m, n] 0 cs).map (.ofNat (4 * m + n / 16) :: ·)
    | some n, [l, m] => (readSextets? [l, m, n] 0 cs).map (.ofNat (m % 16 * 16 + n / 4) :: ·)
    | some n, group =>
      (readSextets? [] 0 cs).map (.ofNat (group.getLastD 0 % 4 * 64 + n) :: ·)

/-- Reads bytes, which have to be written in ASCII. -/
def readBytes (text : String) : Except Defect Value :=
  let cs := text.toList
  match if cs.all fun c => c.toNat < 128 then readSextets? [] 0 cs else none with
  | some bytes => .ok (.bytes bytes)
  | none => .error .malformed

/-- The value of a scalar with a given tag. -/
def read (t : Tag) (text : String) : Except Defect Value :=
  let convert (r : Except Fault Value) : Except Defect Value := r.mapError .conversion
  match t with
  | null => .ok .null
  | bool =>
    match truthWords.find? fun entry => entry.1 == Text.lowerAscii text with
    | some entry => .ok (.bool entry.2)
    | none => .error (.conversion (.missingField (Text.lowerAscii text)))
  | int => convert ((readWhole text).map .int)
  | float => convert ((readReal text).map .float)
  | binary => readBytes text
  | timestamp => convert (Stamp.read text)
  | str => .ok (.str text)
  | _ => .error .malformed

end Tag

end IssueDispatch.Yaml
