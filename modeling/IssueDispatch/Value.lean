import IssueDispatch.Number.Shortest
import IssueDispatch.Text.Quoted
import IssueDispatch.Time.Calendar

/-!
# Dynamic values

Settings files, tracker snapshots and event payloads hold data of any shape.  A `Value` is such a
datum: a scalar, or a collection such as a list or an object whose fields keep their order.  JSON
has null, truth values, numbers, texts, lists, and objects with texts for keys.  A settings file may
also hold bytes, dates, moments, sets and lists of pairs, and its objects may have other scalars for
keys.

A whole number and a decimal one are different values of one order: `Number` compares them exactly.
-/

namespace IssueDispatch

/-- A datum of any shape.  A moment is told by the clock of a time zone, so many seconds ahead of
universal time, or by a clock of which the zone is not known. -/
inductive Value where
  | null
  | bool (b : Bool)
  | int (n : Int)
  | float (x : Binary64)
  | str (s : String)
  | bytes (b : List UInt8)
  | date (d : Date)
  | moment (m : Moment) (offset? : Option Int)
  | list (items : List Value)
  | pair (first second : Value)
  | set (items : List Value)
  | object (fields : List (Value × Value))

/-- The fields of an object, in order. -/
abbrev Fields := List (Value × Value)

instance : Inhabited Value := ⟨.null⟩

/-! ### Numbers of either kind -/

/-- A whole or a decimal number. -/
inductive Number where
  | int (n : Int)
  | float (x : Binary64)
deriving DecidableEq

instance (n : Nat) : OfNat Number n := ⟨.int n⟩

namespace Number

/-- The place of a number on the line of integers that `Binary64.key?` uses.  A whole number outside
the format stands between the largest finite number and the infinity. -/
def key? : Number → Option Int
  | .float x => x.key?
  | .int n =>
    let u := n * (Binary64.unitsPerOne : Int)
    let outermost : Int := (Binary64.limit : Int) - 1
    some (if outermost < u then outermost else if u < -outermost then -outermost else u)

/-- Strictly below; whole numbers compare as integers, and NaN with nothing. -/
def lt : Number → Number → Bool
  | .int m, .int n => decide (m < n)
  | a, b =>
    match a.key?, b.key? with
    | some x, some y => decide (x < y)
    | _, _ => false

/-- Below or equal. -/
def le : Number → Number → Bool
  | .int m, .int n => decide (m ≤ n)
  | a, b =>
    match a.key?, b.key? with
    | some x, some y => decide (x ≤ y)
    | _, _ => false

/-- Numerically equal. -/
def eqv : Number → Number → Bool
  | .int m, .int n => decide (m = n)
  | a, b =>
    match a.key?, b.key? with
    | some x, some y => decide (x = y)
    | _, _ => false

/-- The binary64 number nearest to a number, unless a whole number is too large for the format. -/
def toBinary64 : Number → Except Fault Binary64
  | .float x => .ok x
  | .int n =>
    match Binary64.ofInt n with
    | .infinity _ => .error (.outOfRange "int too large to convert to float")
    | x => .ok x

end Number

namespace Value

/-- The name of the kind of a value, as reports write it. -/
def kindName : Value → String
  | .null => "NoneType"
  | .bool _ => "bool"
  | .int _ => "int"
  | .float _ => "float"
  | .str _ => "str"
  | .bytes _ => "bytes"
  | .date _ => "datetime.date"
  | .moment .. => "datetime.datetime"
  | .list _ => "list"
  | .pair .. => "tuple"
  | .set _ => "set"
  | .object _ => "dict"

/-- Whether a value counts as true where a truth value is called for: everything does but the null,
false, zero and what is empty. -/
def truthy : Value → Bool
  | .null => false
  | .bool b => b
  | .int n => n != 0
  | .float x => !x.isZero
  | .str s => s != ""
  | .bytes b => !b.isEmpty
  | .date _ | .moment .. | .pair .. => true
  | .list items | .set items => !items.isEmpty
  | .object fields => !fields.isEmpty

/-- Whether a value is the null. -/
def isNull : Value → Bool
  | .null => true
  | _ => false

/-- The text of a text value. -/
def str? : Value → Option String
  | .str s => some s
  | _ => none

/-- Whether a value is the given text. -/
def names (v : Value) (name : String) : Bool := v.str? == some name

/-- The number a value stands for; truth values count as zero and one. -/
def number? : Value → Option Number
  | .bool b => some (.int (if b then 1 else 0))
  | .int n => some (.int n)
  | .float x => some (.float x)
  | _ => none

/-- Whether a value can be the key of an object and the member of a set: it can unless it has parts
that may change. -/
def isKey : Value → Bool
  | .list _ | .set _ | .object _ => false
  | .pair a b => a.isKey && b.isKey
  | _ => true

/-- The name of the kind because of which a value cannot be a key. -/
def keylessKind : Value → String
  | .pair a b => if a.isKey then b.keylessKind else a.keylessKind
  | v => v.kindName

/-- Equality of keys: numbers compare by what they stand for, and moments by universal time. -/
def keyEq : Value → Value → Bool
  | .null, .null => true
  | .str s, .str t => s == t
  | .bytes b, .bytes c => b == c
  | .date d, .date e => d == e
  | .moment m none, .moment n none => m == n
  | .moment m (some p), .moment n (some q) => m.ahead (-p) == n.ahead (-q)
  | .pair a b, .pair c d => a.keyEq c && b.keyEq d
  | a, b =>
    match a.number?, b.number? with
    | some x, some y => x.eqv y
    | _, _ => false

/-- The value of a field. -/
def lookup? (fields : Fields) (key : Value) : Option Value :=
  (fields.find? fun field => field.1.keyEq key).map (·.2)

/-- The value of a field with a text key. -/
def get? (fields : Fields) (name : String) : Option Value :=
  lookup? fields (.str name)

/-- The value of a field, the null when there is none. -/
def getD (fields : Fields) (name : String) : Value := (get? fields name).getD .null

/-- The value of a field that has to be there. -/
def require (fields : Fields) (name : String) : Except Fault Value :=
  match get? fields name with
  | some v => .ok v
  | none => .error (.missingField name)

/-- Sets a field: in place when the key is there already, else at the end. -/
def insert (fields : Fields) (key value : Value) : Fields :=
  if (lookup? fields key).isSome then
    fields.map fun field => if field.1.keyEq key then (field.1, value) else field
  else fields ++ [(key, value)]

/-- The fields of `base` overridden and extended by those of `extra`. -/
def merge (base extra : Fields) : Fields :=
  extra.foldl (fun fields field => insert fields field.1 field.2) base

mutual

/-- Equality of values: lists by position, sets and objects whatever the order of their members. -/
def eqv : Value → Value → Bool
  | .list xs, .list ys => eqvItems xs ys
  | .pair a b, .pair c d => eqv a c && eqv b d
  | .set xs, .set ys => xs.length == ys.length && xs.all fun x => ys.any x.keyEq
  | .object xs, .object ys => xs.length == ys.length && eqvFields xs ys
  | a, b => a.keyEq b

/-- Equality of lists of values. -/
def eqvItems : List Value → List Value → Bool
  | [], [] => true
  | x :: xs, y :: ys => eqv x y && eqvItems xs ys
  | _, _ => false

/-- Whether every field of the first object has an equal one in the second. -/
def eqvFields : List (Value × Value) → List (Value × Value) → Bool
  | [], _ => true
  | (key, x) :: xs, ys =>
    (match lookup? ys key with
      | some y => eqv x y
      | none => false) && eqvFields xs ys

end

/-! ### Texts -/

mutual

/-- A value as reports write it: texts are quoted, a list stands in brackets, a pair in parentheses,
and a set or an object in braces. -/
def literal : Value → String
  | .null => "None"
  | .bool b => if b then "True" else "False"
  | .int n => Text.decimalInt n
  | .float x => x.shortest
  | .str s => Text.quote s
  | .bytes b => Text.quoteBytes b
  | .date d => d.literal
  | .moment m offset? => m.literal offset?
  | .list items => "[" ++ ", ".intercalate (literals items) ++ "]"
  | .pair a b => "(" ++ literal a ++ ", " ++ literal b ++ ")"
  | .set [] => "set()"
  | .set items => "\x7b" ++ ", ".intercalate (literals items) ++ "\x7d"
  | .object fields => "\x7b" ++ ", ".intercalate (fieldLiterals fields) ++ "\x7d"

/-- The literals of the items of a list. -/
def literals : List Value → List String
  | [] => []
  | x :: xs => literal x :: literals xs

/-- The literals of the fields of an object. -/
def fieldLiterals : List (Value × Value) → List String
  | [] => []
  | (key, x) :: xs => (literal key ++ ": " ++ literal x) :: fieldLiterals xs

end

/-- A value as part of a sentence: a text stands for itself. -/
def text : Value → String
  | .str s => s
  | v => v.literal

/-! ### Conversions -/

/-- Bytes as the text of a numeral.  They have to be ASCII, and the four separators are no space in
them. -/
def numeralOfBytes? (b : List UInt8) : Option String :=
  if b.all fun byte => byte < 0x1c || 0x20 ≤ byte && byte < 0x80 then
    some (String.ofList (b.map fun byte => Char.ofNat byte.toNat))
  else none

/-- Reads a value as a binary64 number; texts and bytes are read as decimal numerals. -/
def toBinary64 (v : Value) : Except Fault Binary64 :=
  match v with
  | .str s =>
    match readBinary64? s with
    | some x => .ok x
    | none => .error (.unreadableNumber (Text.quote s))
  | .bytes b =>
    match (numeralOfBytes? b).bind readBinary64? with
    | some x => .ok x
    | none => .error (.unreadableNumber (Text.quoteBytes b))
  | v =>
    match v.number? with
    | some n => n.toBinary64
    | none =>
      .error (.wrongKind ("float() argument must be a string or a real number, not '" ++
        v.kindName ++ "'"))

/-- Reads a value as a whole number: the fraction of a decimal number is dropped, and texts and
bytes are read as numerals. -/
def toInt (v : Value) : Except Fault Int :=
  match v with
  | .str s =>
    match readInt? s with
    | some n => .ok n
    | none => .error (.unreadableInteger (Text.quote s ++ " is no whole number"))
  | .bytes b =>
    match (numeralOfBytes? b).bind readInt? with
    | some n => .ok n
    | none => .error (.unreadableInteger (Text.quoteBytes b ++ " is no whole number"))
  | .float x =>
    match x.truncate? with
    | some n => .ok n
    | none =>
      if x.isNaN then .error (.unreadableInteger "NaN is no whole number")
      else .error (.outOfRange "an infinite number is no whole number")
  | .int n => .ok n
  | .bool b => .ok (if b then 1 else 0)
  | v => .error (.wrongKind ("a number is expected, not '" ++ v.kindName ++ "'"))

/-- The members of a value that has members: the items of a list, a pair or a set, the characters of
a text, the numbers of bytes or the keys of an object. -/
def members (v : Value) : Except Fault (List Value) :=
  match v with
  | .list items | .set items => .ok items
  | .pair a b => .ok [a, b]
  | .bytes b => .ok (b.map fun byte => .int byte.toNat)
  | .str s => .ok (s.toList.map fun c => .str (String.singleton c))
  | .object fields => .ok (fields.map (·.1))
  | v => .error (.wrongKind ("'" ++ v.kindName ++ "' object is not iterable"))

/-- The fault of using a value as a key that cannot be one. -/
def keyless (v : Value) : Fault := .wrongKind ("unhashable type: '" ++ v.keylessKind ++ "'")

/-- Drops the members that are equal to an earlier one; only keys can be members of a set. -/
def distinct (items : List Value) : Except Fault (List Value) :=
  items.foldlM (fun seen x =>
    if !x.isKey then .error x.keyless
    else if seen.any x.keyEq then .ok seen
    else .ok (seen ++ [x])) []

/-- Compares the number a value stands for with a given one. -/
def compareNumber (symbol : String) (holds : Number → Number → Bool) (v : Value) (bound : Number) :
    Except Fault Bool :=
  match v.number? with
  | some n => .ok (holds n bound)
  | none =>
    let other := match bound with
      | .int _ => "int"
      | .float _ => "float"
    .error (.wrongKind ("'" ++ symbol ++ "' not supported between instances of '" ++ v.kindName ++
      "' and '" ++ other ++ "'"))

/-- An optional text as a value. -/
def ofText? : Option String → Value
  | some s => .str s
  | none => .null

/-- An optional number as a value. -/
def ofBinary64? : Option Binary64 → Value
  | some x => .float x
  | none => .null

/-- A number of either kind as a value. -/
def ofNumber : Number → Value
  | .int n => .int n
  | .float x => .float x

/-- An optional whole number as a value. -/
def ofInt? : Option Int → Value
  | some n => .int n
  | none => .null

/-- A list of texts as a value. -/
def ofTexts (texts : List String) : Value := .list (texts.map .str)

/-- An object from its named fields. -/
def ofFields (fields : List (String × Value)) : Value :=
  .object (fields.map fun field => (.str field.1, field.2))

end Value

end IssueDispatch
