import IssueDispatch.Yaml.Scalar
import IssueDispatch.Yaml.Token

/-!
# Documents

`Node.ofText?` reads the one document of a YAML text as a tree of nodes.  An alias stands for the
node with its anchor, which has to be complete by then, and an anchor may be used only once.
`Node.toValue` gives the value of a tree.  Collections are evaluated from the outside in, so of
several defects the one in the outermost collection counts.

`Yaml.read` is a reader such as `Settings.ofFile` takes.  It knows the standard tags of YAML 1.1 and
refuses all others.
-/

namespace IssueDispatch.Yaml

/-- A part of a document; every node carries the tag that decides its meaning. -/
inductive Node where
  | scalar (tag : Tag) (text : String)
  | sequence (tag : Tag) (items : List Node)
  | mapping (tag : Tag) (pairs : List (Node × Node))

instance : Inhabited Node := ⟨.scalar .null ""⟩

namespace Node

/-- What is left out. -/
def empty : Node := .scalar .null ""

/-! ### Reading tokens -/

/-- The tokens to come, the expansions of tag handles, and the anchors met so far; the node of an
anchor is missing while it is being read. -/
structure Reader where
  tokens : List Token
  handles : List (String × String) := []
  anchors : List (String × Option Node) := []

/-- A step of reading. -/
abbrev Reading := StateT Reader Option

namespace Reading

/-- The next token. -/
def peek : Reading (Option Token) := return (← get).tokens.head?

/-- Passes over a token. -/
def skip : Reading Unit := modify fun r => { r with tokens := r.tokens.tail }

/-- Whether the next token is one of those given. -/
def isAt (ts : List Token) : Reading Bool := return (← peek).any ts.contains

/-- Passes over the next token if it is the given one. -/
def accept (t : Token) : Reading Bool := do
  let found ← isAt [t]
  if found then skip
  return found

/-- Passes over the next token, which has to be the given one. -/
def expect (t : Token) : Reading Unit := do
  if !(← accept t) then failure

/-- Reads the properties of a node: an anchor and a tag, in any order. -/
def properties : Reading (Option String × Option WrittenTag) := do
  match ← peek with
  | some (.anchor name) =>
    skip
    match ← peek with
    | some (.tag t) => skip; return (some name, some t)
    | _ => return (some name, none)
  | some (.tag t) =>
    skip
    match ← peek with
    | some (.anchor name) => skip; return (some name, some t)
    | _ => return (none, some t)
  | _ => return (none, none)

/-- The full name of a tag. -/
def tagName (t : WrittenTag) : Reading String := do
  match t.handle with
  | none => return t.suffix
  | some handle =>
    match (← get).handles.lookup handle with
    | some expansion => return expansion ++ t.suffix
    | none => failure

/-- Notes that the node of an anchor begins. -/
def openAnchor (name : String) : Reading Unit := do
  if ((← get).anchors.lookup name).isSome then failure
  modify fun r => { r with anchors := (name, none) :: r.anchors }

/-- Notes the node of an anchor. -/
def closeAnchor (name : String) (node : Node) : Reading Unit :=
  modify fun r => { r with
    anchors := r.anchors.map fun a => if a.1 == name then (name, some node) else a }

/-- The tag of a collection: the one written out, unless that is the mark for no tag. -/
def collectionTag (written : Option String) (usual : Tag) : Tag :=
  match written with
  | none | some "!" => usual
  | some name => .ofName name

/-- The tag of a scalar.  The text decides when the scalar is plain and has no tag, or has the mark
for no tag. -/
def scalarTag (written : Option String) (isPlain : Bool) (text : String) : Tag :=
  match written with
  | none => if isPlain then .ofPlain text else .str
  | some "!" => .ofPlain text
  | some name => .ofName name

/-- The tokens after which a part of a flow collection may be missing. -/
def flowEnds (closing : Token) : List Token := [.value, .flowEntry, closing]

/-- The tokens after which a part of a block mapping may be missing. -/
def blockEnds : List Token := [.key, .value, .blockEnd]

mutual

/-- Reads a node.  Block collections are read only where `inBlock` allows them, and a sequence that
is not indented only where `flush` does. -/
def node (fuel : Nat) (inBlock flush : Bool) : Reading Node :=
  match fuel with
  | 0 => failure
  | fuel + 1 => do
    match ← peek with
    | some (.alias name) =>
      skip
      match (← get).anchors.lookup name with
      | some (some node) => return node
      | _ => failure
    | _ =>
      let (anchor, written) ← properties
      let written ← written.mapM tagName
      anchor.forM openAnchor
      let node ← content fuel inBlock flush (anchor.isSome || written.isSome) written
      anchor.forM fun name => closeAnchor name node
      return node

/-- Reads a node after its properties; one that has properties may be empty. -/
def content (fuel : Nat) (inBlock flush mayBeEmpty : Bool) (written : Option String) :
    Reading Node :=
  match fuel with
  | 0 => failure
  | fuel + 1 => do
    let sequence (items : List Node) : Node := .sequence (collectionTag written .seq) items
    let mapping (pairs : List (Node × Node)) : Node := .mapping (collectionTag written .map) pairs
    match ← peek with
    | some .blockEntry =>
      if flush then return sequence (← flushItems fuel)
      else if mayBeEmpty then return .scalar (scalarTag written true "") ""
      else failure
    | some (.scalar text isPlain) =>
      skip
      return .scalar (scalarTag written isPlain text) text
    | some .flowSequenceStart =>
      skip
      return sequence (← flowItems fuel true)
    | some .flowMappingStart =>
      skip
      return mapping (← flowPairs fuel true)
    | other =>
      if inBlock && other == some .sequenceStart then
        skip
        return sequence (← blockItems fuel)
      else if inBlock && other == some .mappingStart then
        skip
        return mapping (← blockPairs fuel)
      else if mayBeEmpty then return .scalar (scalarTag written true "") ""
      else failure

/-- Reads a node, which is missing before the given tokens. -/
def nodeOrEmpty (fuel : Nat) (inBlock flush : Bool) (ends : List Token) : Reading Node :=
  match fuel with
  | 0 => failure
  | fuel + 1 => do
    if ← isAt ends then return empty else node fuel inBlock flush

/-- Reads the items of a block sequence up to its end. -/
def blockItems (fuel : Nat) : Reading (List Node) :=
  match fuel with
  | 0 => failure
  | fuel + 1 => do
    if ← accept .blockEntry then
      let item ← nodeOrEmpty fuel true false [.blockEntry, .blockEnd]
      return item :: (← blockItems fuel)
    else
      expect .blockEnd
      return []

/-- Reads the items of a block sequence that is not indented. -/
def flushItems (fuel : Nat) : Reading (List Node) :=
  match fuel with
  | 0 => failure
  | fuel + 1 => do
    if ← accept .blockEntry then
      let item ← nodeOrEmpty fuel true false (.blockEntry :: blockEnds)
      return item :: (← flushItems fuel)
    else return []

/-- Reads the pairs of a block mapping up to its end. -/
def blockPairs (fuel : Nat) : Reading (List (Node × Node)) :=
  match fuel with
  | 0 => failure
  | fuel + 1 => do
    if ← isAt [.key, .value] then
      let key ← if ← accept .key then nodeOrEmpty fuel true true blockEnds else failure
      let value ← if ← accept .value then nodeOrEmpty fuel true true blockEnds else pure empty
      return (key, value) :: (← blockPairs fuel)
    else
      expect .blockEnd
      return []

/-- Reads a key that is marked as such and its value in a flow collection. -/
def flowPair (fuel : Nat) (closing : Token) : Reading (Node × Node) :=
  match fuel with
  | 0 => failure
  | fuel + 1 => do
    let key ← nodeOrEmpty fuel false false (flowEnds closing)
    let value ←
      if ← accept .value then nodeOrEmpty fuel false false [.flowEntry, closing] else pure empty
    return (key, value)

/-- Reads the items of a flow sequence up to its end; a pair alone is a mapping. -/
def flowItems (fuel : Nat) (first : Bool) : Reading (List Node) :=
  match fuel with
  | 0 => failure
  | fuel + 1 => do
    if ← accept .flowSequenceEnd then return []
    if !first then expect .flowEntry
    if ← accept .flowSequenceEnd then return []
    let item ←
      if ← accept .key then pure (.mapping .map [← flowPair fuel .flowSequenceEnd])
      else node fuel false false
    return item :: (← flowItems fuel false)

/-- Reads the pairs of a flow mapping up to its end; a node alone is a key without a value. -/
def flowPairs (fuel : Nat) (first : Bool) : Reading (List (Node × Node)) :=
  match fuel with
  | 0 => failure
  | fuel + 1 => do
    if ← accept .flowMappingEnd then return []
    if !first then expect .flowEntry
    if ← accept .flowMappingEnd then return []
    let pair ←
      if ← accept .key then flowPair fuel .flowMappingEnd
      else pure (← node fuel false false, empty)
    return pair :: (← flowPairs fuel false)

end

/-- The tag handles that need no directive. -/
def usualHandles : List (String × String) := [("!", "!"), ("!!", Tag.standard)]

/-- Reads the directives of a document: at most one version, which must be a first one, and
at most one expansion for each tag handle. -/
def directives (fuel : Nat) (versioned : Bool) (handles : List (String × String)) :
    Reading Unit :=
  match fuel with
  | 0 => failure
  | fuel + 1 => do
    match ← peek with
    | some (.directive d) =>
      skip
      match d with
      | .version major =>
        if versioned || major != 1 then failure
        directives fuel true handles
      | .tagHandle handle expansion =>
        if (handles.lookup handle).isSome then failure
        directives fuel versioned ((handle, expansion) :: handles)
      | .other => directives fuel versioned handles
    | _ => modify fun r => { r with handles := handles ++ usualHandles }

/-- Reads the one document; there may be none at all. -/
def document : Reading Node := do
  let fuel := 4 * (← get).tokens.length + 4
  match ← peek with
  | none => return empty
  | some (.directive _) | some .documentStart =>
    directives fuel false []
    expect .documentStart
    match ← peek with
    | none | some (.directive _) | some .documentStart | some .documentEnd => return empty
    | _ => node fuel true false
  | _ =>
    modify fun r => { r with handles := usualHandles }
    node fuel true false

end Reading

/-- Reads the one document of a text. -/
def ofText? (text : String) : Option Node := do
  let tokens ← Token.ofText? text
  let (node, r) ← Reading.document.run { tokens }
  if r.tokens.all (· == .documentEnd) then return node else none

/-! ### Values -/

mutual

/-- Splits the pairs of a mapping into those that merge keys bring in and its own; a key that is an
equals sign is a text. -/
def splitMerged? : List (Node × Node) → Option (List (Node × Node) × List (Node × Node))
  | [] => some ([], [])
  | (key, value) :: pairs => do
    let (merged, own) ← splitMerged? pairs
    match key with
    | .scalar .merge _ => return ((← mergedPairs? value) ++ merged, own)
    | .scalar .value text => return (merged, (.scalar .str text, value) :: own)
    | key => return (merged, (key, value) :: own)

/-- The pairs that a merge key brings in: those of a mapping, or of several mappings of which the
first one counts most. -/
def mergedPairs? : Node → Option (List (Node × Node))
  | .mapping _ pairs => do
    let (merged, own) ← splitMerged? pairs
    return merged ++ own
  | .sequence _ items => mergedItems? items
  | .scalar .. => none

/-- The pairs of the mappings in a list, the later mappings first. -/
def mergedItems? : List Node → Option (List (Node × Node))
  | [] => some []
  | .mapping _ pairs :: items => do
    let later ← mergedItems? items
    let (merged, own) ← splitMerged? pairs
    return later ++ (merged ++ own)
  | _ :: _ => none

end

/-- The text of a scalar, or of the scalar that a mapping has under an equals sign. -/
def scalarText? : Node → Option String
  | .scalar _ text => some text
  | .sequence .. => none
  | .mapping _ pairs => textOfValueKey? pairs
where
  /-- The text under the first key that is an equals sign. -/
  textOfValueKey? : List (Node × Node) → Option String
    | [] => none
    | (.scalar .value _, value) :: _ => scalarText? value
    | _ :: pairs => textOfValueKey? pairs

/-- A defect and the depth of the collection in which it was met. -/
structure Found where
  depth : Nat
  defect : Defect

/-- Of two results both must be there; of two defects the outer one counts, or else the first. -/
def both {α β : Type} (a : Except Found α) (b : Except Found β) : Except Found (α × β) :=
  match a, b with
  | .ok x, .ok y => .ok (x, y)
  | .error e, .ok _ => .error e
  | .ok _, .error e => .error e
  | .error e, .error f => .error (if f.depth < e.depth then f else e)

/-- The key of a mapping must not be a collection. -/
def checkKey (depth : Nat) (key : Value) : Except Found Value :=
  if key.isKey then .ok key else .error ⟨depth, .malformed⟩

/-- The value of a node at some depth.  Every mapping is nested at most as deep as the fuel, the
number of its merge keys included. -/
def evaluate (fuel : Nat) (depth : Nat) (n : Node) : Except Found Value :=
  let malformed {α : Type} (depth : Nat) : Except Found α := .error ⟨depth, .malformed⟩
  match fuel with
  | 0 => malformed depth
  | fuel + 1 =>
    let inside := depth + 1
    let fields (pairs : List (Node × Node)) : Except Found Fields :=
      match splitMerged? pairs with
      | none => malformed inside
      | some (merged, own) =>
        let add (pair : Node × Node) (rest : Except Found Fields) : Except Found Fields :=
          (both (both (evaluate fuel inside pair.1 >>= checkKey inside)
            (evaluate fuel inside pair.2)) rest).map fun (field, fields) => field :: fields
        ((merged ++ own).foldr add (.ok [])).map (Value.merge [])
    match n with
    | .sequence .seq items =>
      let add (item : Node) (rest : Except Found (List Value)) : Except Found (List Value) :=
        (both (evaluate fuel inside item) rest).map fun (item, items) => item :: items
      (items.foldr add (.ok [])).map .list
    | .sequence .omap items | .sequence .pairs items =>
      let add (item : Node) (rest : Except Found (List Value)) : Except Found (List Value) :=
        match item with
        | .mapping _ [(key, value)] =>
          (both (both (evaluate fuel inside key) (evaluate fuel inside value)) rest).map
            fun ((key, value), pairs) => .pair key value :: pairs
        | _ => malformed inside
      (items.foldr add (.ok [])).map .list
    | .mapping .map pairs => (fields pairs).map .object
    | .mapping .set pairs => (fields pairs).map fun fields => .set (fields.map (·.1))
    | .sequence .map _ | .sequence .set _ | .scalar .map _ | .scalar .set _
    | .mapping .seq _ | .mapping .omap _ | .mapping .pairs _
    | .scalar .seq _ | .scalar .omap _ | .scalar .pairs _ => malformed inside
    | .scalar tag text => (tag.read text).mapError (⟨depth, ·⟩)
    | n =>
      let tag := match n with
        | .scalar tag _ | .sequence tag _ | .mapping tag _ => tag
      match n.scalarText? with
      | some text => (tag.read text).mapError (⟨depth, ·⟩)
      | none => malformed depth

mutual

/-- The number of collections on the longest way down. -/
def height : Node → Nat
  | .scalar .. => 1
  | .sequence _ items => itemsHeight items + 1
  | .mapping _ pairs => pairsHeight pairs + 1

/-- The greatest height of items. -/
def itemsHeight : List Node → Nat
  | [] => 0
  | item :: items => max item.height (itemsHeight items)

/-- The greatest height of the nodes in pairs. -/
def pairsHeight : List (Node × Node) → Nat
  | [] => 0
  | (key, value) :: pairs => max (max key.height value.height) (pairsHeight pairs)

end

/-- The value of a document. -/
def toValue (n : Node) : Except Defect Value :=
  (evaluate (n.height + 1) 0 n).mapError Found.defect

end Node

/-- Reads the value of a YAML text. -/
def read (text : String) : Except Defect Value :=
  match Node.ofText? text with
  | some n => n.toValue
  | none => .error .malformed

end IssueDispatch.Yaml
