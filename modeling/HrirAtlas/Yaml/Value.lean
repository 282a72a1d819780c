import HrirAtlas.Yaml.Literal
import HrirAtlas.Yaml.Node

/-
From the nodes of a document to its value. The contents of a collection are looked at after the
collection itself, so of several faults the one that is nearest to the root is reported, and of
those the first.
-/

namespace HrirAtlas.Yaml

variable {α : Type} [Scalar α]

/-! ## Faults by depth -/

/-- A result, or a fault with its depth. -/
abbrev AtDepth (β : Type) := Except (Nat × Fault) β

/-- All results, or the fault that is nearest to the root. -/
def allAtDepth {β : Type} : List (AtDepth β) → AtDepth (List β)
  | [] => .ok []
  | x :: rest =>
    match x, allAtDepth rest with
    | .ok value, .ok values => .ok (value :: values)
    | .ok _, .error fault => .error fault
    | .error fault, .ok _ => .error fault
    | .error (depth, fault), .error (other, later) => .error (if other < depth then (other, later) else (depth, fault))

/-- Both results, or the fault that is nearer to the root. -/
def bothAtDepth {β γ : Type} (x : AtDepth β) (y : AtDepth γ) : AtDepth (β × γ) :=
  match x, y with
  | .ok value, .ok other => .ok (value, other)
  | .ok _, .error fault => .error fault
  | .error fault, .ok _ => .error fault
  | .error (depth, fault), .error (other, later) => .error (if other < depth then (other, later) else (depth, fault))

/-! ## Nodes -/

namespace Node

def tag : Node → Tag
  | .scalar tag _ | .sequence tag _ | .mapping tag _ => tag
  | .enclosing => .unknown

/-- Whether the value of the node can be a key. -/
def canBeKey (node : Node) : Bool := !(node.tag ∈ [.sequence, .mapping, .set, .pairs])

mutual

/-- The text of a scalar; that of a mapping is the text of its default entry. -/
def scalarText : Node → Except Fault String
  | .scalar _ text => .ok text
  | .mapping _ entries => defaultText entries
  | _ => .error .value

def defaultText : List (Node × Node) → Except Fault String
  | [] => .error .value
  | (key, value) :: rest => if key.tag = .default then scalarText value else defaultText rest

end

/-- The value of a node whose tag asks for a scalar. -/
def scalarValue (node : Node) : Except Fault (Setting α) := do
  match node.tag with
  | .null =>
    let _ ← node.scalarText
    return .null
  | .flag => return .flag (← truthValue (← node.scalarText))
  | .integer => return .int (← integer (← node.scalarText))
  | .real => return .real (← real (← node.scalarText))
  | .binary => return .bytes (← binary (← node.scalarText))
  | .instant => moment (← node.scalarText)
  | .text => return .text (← node.scalarText)
  | _ => throw .value

/-- The value of a key; the sign of a default entry is a text there. -/
def keyValue (node : Node) : Except Fault (Setting α) :=
  if node.tag = .default then node.scalarText.map .text else node.scalarValue

mutual

/-- The value of a node at a depth. -/
def value (depth : Nat) (node : Node) : AtDepth (Setting α) :=
  match node with
  | .enclosing => .error (depth, .value)
  | .scalar tag text =>
    if (Node.scalar tag text).canBeKey then (scalarValue (.scalar tag text)).mapError (depth, ·)
    else .error (depth + 1, .value)
  | .sequence tag items =>
    match tag with
    | .sequence => (allAtDepth (itemValues (depth + 1) items)).map .list
    | .pairs => (allAtDepth (pairValues (depth + 1) items)).map .list
    | .mapping | .set => .error (depth + 1, .value)
    | _ => .error (depth, .value)
  | .mapping tag entries =>
    match tag with
    | .mapping => (mappingValue (depth + 1) entries).map fun entries => .map entries
    | .set => (mappingValue (depth + 1) entries).map fun entries => .set (entries.map Prod.fst)
    | .sequence | .pairs => .error (depth + 1, .value)
    | tag => (scalarValue (.mapping tag entries)).mapError (depth, ·)

def itemValues (depth : Nat) : List Node → List (AtDepth (Setting α))
  | [] => []
  | item :: rest => value depth item :: itemValues depth rest

/-- The values of mappings with one entry each, as pairs. -/
def pairValues (depth : Nat) : List Node → List (AtDepth (Setting α))
  | [] => []
  | item :: rest =>
    let pair := match item with
      | .mapping _ entries => singleValue depth entries
      | _ => .error (depth, .value)
    pair :: pairValues depth rest

/-- The value of the only entry of a mapping. -/
def singleValue (depth : Nat) : List (Node × Node) → AtDepth (Setting α)
  | [(key, item)] =>
    (bothAtDepth (value depth key) (value depth item)).map fun (key, item) => .pair key item
  | _ => .error (depth, .value)

/-- The entries of a mapping: those that are taken over come first, and each key keeps the last of
its values. -/
def mappingValue (depth : Nat) (entries : List (Node × Node)) : AtDepth (List (Setting α × Setting α)) := do
  let (taken, own) ← (entryValues depth entries).mapError (depth, ·)
  let all ← allAtDepth (taken ++ own)
  return all.foldl (fun known (key, item) => Setting.put key item known) []

/-- The entries that a mapping takes over, and its own. -/
def entryValues (depth : Nat) : List (Node × Node) →
    Except Fault (List (AtDepth (Setting α × Setting α)) × List (AtDepth (Setting α × Setting α)))
  | [] => .ok ([], [])
  | (key, item) :: rest => do
    if key.tag = .merge then
      let first ← takenOver depth item
      let (taken, own) ← entryValues depth rest
      return (first ++ taken, own)
    else
      let (taken, own) ← entryValues depth rest
      let entry :=
        if key.canBeKey then bothAtDepth ((keyValue key).mapError (depth, ·)) (value depth item)
        else .error (depth, .value)
      return (taken, entry :: own)

/-- The entries that come from the value of a merge key: a mapping, or mappings of which the first
one comes last, since it prevails. -/
def takenOver (depth : Nat) (node : Node) : Except Fault (List (AtDepth (Setting α × Setting α))) :=
  match node with
  | .mapping _ entries => (entryValues depth entries).map fun (taken, own) => taken ++ own
  | .sequence _ items => (allTakenOver depth items).map fun lists => lists.reverse.flatten
  | _ => .error .value

def allTakenOver (depth : Nat) : List Node → Except Fault (List (List (AtDepth (Setting α × Setting α))))
  | [] => .ok []
  | item :: rest => do
    let first ← match item with
      | .mapping _ entries => (entryValues depth entries).map fun (taken, own) => taken ++ own
      | _ => .error .value
    return first :: (← allTakenOver depth rest)

end

end Node

end HrirAtlas.Yaml
