import HrirAtlas.Yaml.Tag
import HrirAtlas.Yaml.Token

/-
From the tokens of a document to its nodes. An anchor names a node and an alias stands for the node
of that name. Tokens are asked for one at a time, so of two faults the one that is met first is
reported: a fault of the tokens themselves counts where the missing token is asked for. Fuel bounds
the nesting and never runs out when it is a few times the number of tokens.
-/

namespace HrirAtlas.Yaml

/-- A node of a document with the kind of value that it stands for. -/
inductive Node where
  | scalar (tag : Tag) (text : String)
  | sequence (tag : Tag) (items : List Node)
  | mapping (tag : Tag) (entries : List (Node × Node))
  /-- An alias for a node around it. -/
  | enclosing
deriving Repr

/-- The node of an empty scalar. -/
def Node.empty : Node := .scalar .null ""

/-! ## The state of reading -/

/-- What is still to be read, and what has been settled so far. -/
structure ReaderState where
  tokens : List Token
  /-- What stands in the way of further tokens. -/
  fault : Fault
  /-- What the handles of tags abbreviate. -/
  handles : List (String × String) := []
  /-- The named nodes; none for a node that is being read. -/
  anchors : List (String × Option Node) := []

/-- A step of reading. -/
abbrev Reader := StateT ReaderState (Except Fault)

namespace Reader

/-- The next token, which stays in place. -/
def peek : Reader Token := do
  let r ← get
  match r.tokens with
  | t :: _ => return t
  | [] => throw r.fault

/-- Takes the next token away. -/
def skip : Reader Unit := modify fun r => { r with tokens := r.tokens.tail }

/-- Takes the next token away if it is the given one. -/
def accept (t : Token) : Reader Bool := do
  if (← peek) = t then
    skip
    return true
  else return false

/-- Takes away the mark between two entries, which must come next. -/
def acceptEntry : Reader Unit := do
  if !(← accept .flowEntry) then throw .structural

/-! ## Directives -/

/-- The handles that are known everywhere. -/
def defaultHandles : List (String × String) := [("!", "!"), ("!!", commonPrefix)]

/-- The handles after the directives that come next; each handle and the version are set once. -/
def directives : Nat → Bool → List (String × String) → Reader (List (String × String))
  | 0, _, handles => return handles
  | fuel + 1, hasVersion, handles => do
    match ← peek with
    | .directive d =>
      skip
      match d with
      | .version major =>
        if hasVersion || major ≠ 1 then throw .structural
        directives fuel true handles
      | .abbreviation handle expansion =>
        if handles.any (·.1 == handle) then throw .structural
        directives fuel hasVersion (handles ++ [(handle, expansion)])
      | .other => directives fuel hasVersion handles
    | _ => return handles

/-- The directives and the mark in front of a document. -/
def documentStart : Reader Unit := do
  let handles ← directives ((← get).tokens.length + 1) false []
  if (← peek) ≠ .documentStart then throw .structural
  skip
  modify fun r => { r with handles := handles ++ defaultHandles }

/-! ## Properties of nodes -/

/-- The name of a tag as it is written. -/
def tagName (t : WrittenTag) : Reader String := do
  match t.handle with
  | none => return t.suffix
  | some handle =>
    match (← get).handles.lookup handle with
    | some expansion => return expansion ++ t.suffix
    | none => throw .structural

/-- The anchor, if one comes next. -/
def anchor? : Reader (Option String) := do
  match ← peek with
  | .anchor name =>
    skip
    return some name
  | _ => return none

/-- The tag, if one comes next. -/
def tag? : Reader (Option WrittenTag) := do
  match ← peek with
  | .tag t =>
    skip
    return some t
  | _ => return none

/-- An anchor and a tag, in either order, each if it is there. -/
def properties : Reader (Option String × Option WrittenTag) := do
  match ← anchor? with
  | some name => return (some name, ← tag?)
  | none =>
    let tag ← tag?
    if tag.isSome then return (← anchor?, tag) else return (none, none)

/-- The tag of a collection, which is the usual one unless another is named. -/
def tagOr (usual : Tag) (name : Option String) : Tag :=
  match name with
  | none => usual
  | some name => if name = "!" then usual else .ofName name

/-- The tag of a scalar: with a mark alone its text decides, as for a plain one without a tag. -/
def scalarTag (name : Option String) (isPlain : Bool) (text : String) : Tag :=
  match name with
  | none => if isPlain then .ofPlain text else .text
  | some name => if name = "!" then .ofPlain text else .ofName name

/-- Keeps a name for the node that comes; each name is given once. -/
def reserve (anchor : Option String) : Reader Unit := do
  match anchor with
  | none => return
  | some name =>
    if ((← get).anchors.lookup name).isSome then throw .reference
    modify fun r => { r with anchors := (name, none) :: r.anchors }

/-- Gives the node its name. -/
def settle (anchor : Option String) (node : Node) : Reader Node := do
  match anchor with
  | none => return node
  | some name =>
    modify fun r => { r with anchors := (name, some node) :: r.anchors }
    return node

/-- The node that an alias stands for. -/
def aliased (name : String) : Reader Node := do
  match (← get).anchors.lookup name with
  | none => throw .reference
  | some none => return .enclosing
  | some (some node) => return node

/-! ## Nodes -/

/-- Whether the next token is one of those before which a node may be missing. -/
def isNext (ts : List Token) : Reader Bool := return ts.contains (← peek)

mutual

/-- A node: an alias, or properties with a scalar, a collection, or nothing. Blocks and sequences
without indentation are read only where they may stand. -/
def node (inBlock mayHang : Bool) : Nat → Reader Node
  | 0 => throw .structural
  | fuel + 1 => do
    if let .alias name ← peek then
      skip
      return ← aliased name
    let (anchor, tag) ← properties
    let name ← tag.mapM tagName
    let content ← peek
    if mayHang && content = .blockEntry then
      reserve anchor
      return ← settle anchor (.sequence (tagOr .sequence name) (← hangingItems fuel))
    match content with
    | .scalar text isPlain =>
      skip
      reserve anchor
      settle anchor (.scalar (scalarTag name isPlain text) text)
    | .flowSequence =>
      skip
      reserve anchor
      settle anchor (.sequence (tagOr .sequence name) (← flowItems true fuel))
    | .flowMapping =>
      skip
      reserve anchor
      settle anchor (.mapping (tagOr .mapping name) (← flowEntries true fuel))
    | content =>
      if inBlock && content = .blockSequence then
        skip
        reserve anchor
        settle anchor (.sequence (tagOr .sequence name) (← blockItems fuel))
      else if inBlock && content = .blockMapping then
        skip
        reserve anchor
        settle anchor (.mapping (tagOr .mapping name) (← blockEntries fuel))
      else if anchor.isSome || tag.isSome then
        reserve anchor
        settle anchor (.scalar (scalarTag name true "") "")
      else throw .structural

/-- A node of a block, or an empty one before certain tokens. -/
def nodeUnless (ends : List Token) (inBlock mayHang : Bool) : Nat → Reader Node
  | 0 => throw .structural
  | fuel + 1 => do
    if ← isNext ends then return .empty else node inBlock mayHang fuel

/-- The items of a sequence in a block. -/
def blockItems : Nat → Reader (List Node)
  | 0 => throw .structural
  | fuel + 1 => do
    if ← accept .blockEntry then
      let item ← nodeUnless [.blockEntry, .blockEnd] true false fuel
      return item :: (← blockItems fuel)
    else if ← accept .blockEnd then return []
    else throw .structural

/-- The items of a sequence at the indentation of the mapping around it. -/
def hangingItems : Nat → Reader (List Node)
  | 0 => throw .structural
  | fuel + 1 => do
    if ← accept .blockEntry then
      let item ← nodeUnless [.blockEntry, .key, .value, .blockEnd] true false fuel
      return item :: (← hangingItems fuel)
    else return []

/-- The value after a key, which is empty where its mark is missing. -/
def valueUnless (ends : List Token) (inBlock : Bool) : Nat → Reader Node
  | 0 => throw .structural
  | fuel + 1 => do
    if ← accept .value then nodeUnless ends inBlock inBlock fuel else return .empty

/-- The entries of a mapping in a block. -/
def blockEntries : Nat → Reader (List (Node × Node))
  | 0 => throw .structural
  | fuel + 1 => do
    let ends := [.key, .value, .blockEnd]
    if ← accept .key then
      let key ← nodeUnless ends true true fuel
      let value ← valueUnless ends true fuel
      return (key, value) :: (← blockEntries fuel)
    else if ← accept .blockEnd then return []
    else throw .structural

/-- The items of a sequence between brackets; a key with a value is a mapping of its own. -/
def flowItems (isFirst : Bool) : Nat → Reader (List Node)
  | 0 => throw .structural
  | fuel + 1 => do
    if ← accept .flowSequenceEnd then return []
    if !isFirst then acceptEntry
    if ← accept .key then
      let key ← nodeUnless [.value, .flowEntry, .flowSequenceEnd] false false fuel
      let value ← valueUnless [.flowEntry, .flowSequenceEnd] false fuel
      return .mapping .mapping [(key, value)] :: (← flowItems false fuel)
    else if ← accept .flowSequenceEnd then return []
    else
      let item ← node false false fuel
      return item :: (← flowItems false fuel)

/-- The entries of a mapping between braces; a node alone is a key. -/
def flowEntries (isFirst : Bool) : Nat → Reader (List (Node × Node))
  | 0 => throw .structural
  | fuel + 1 => do
    if ← accept .flowMappingEnd then return []
    if !isFirst then acceptEntry
    if ← accept .key then
      let key ← nodeUnless [.value, .flowEntry, .flowMappingEnd] false false fuel
      let value ← valueUnless [.flowEntry, .flowMappingEnd] false fuel
      return (key, value) :: (← flowEntries false fuel)
    else if ← accept .flowMappingEnd then return []
    else
      let key ← node false false fuel
      return (key, .empty) :: (← flowEntries false fuel)

end

/-! ## Documents -/

/-- Takes the marks at the end of a document away. -/
def documentEnds : Nat → Reader Unit
  | 0 => return
  | fuel + 1 => do
    if ← accept .documentEnd then documentEnds fuel

/-- Whether nothing is left; the marks at the end of a document do not count. -/
def isAtEnd : Reader Bool := do
  documentEnds ((← get).tokens.length + 1)
  return (← peek) = .streamEnd

/-- The root of the document that comes next, which may be empty after its mark. -/
def document (fuel : Nat) : Reader Node := do
  match ← peek with
  | .directive _ | .documentStart =>
    documentStart
    match ← peek with
    | .directive _ | .documentStart | .documentEnd | .streamEnd => return .empty
    | _ => node true false fuel
  | _ =>
    modify fun r => { r with handles := defaultHandles }
    node true false fuel

/-- The root of the only document, if there is one. -/
def root (fuel : Nat) : Reader (Option Node) := do
  if (← peek) = .streamEnd then return none
  let root ← document fuel
  if ← isAtEnd then return some root
  documentStart
  throw .reference

end Reader

/-- The root of the only document in a list of tokens, if there is one. -/
def Node.ofTokens (tokens : List Token) (fault : Option Fault) : Except Fault (Option Node) :=
  ((Reader.root (4 * tokens.length + 8)).run { tokens, fault := fault.getD .structural }).map Prod.fst

end HrirAtlas.Yaml
