import HrirAtlas.Fault

/-
Arrays given as nested lists. The lists are walked depth first: the first path down to a value that
is no list, or to an empty list, tells how many axes there are and how long each is; all later
lists must agree. Where they do not, the axes before the disagreement are what the lists share, and
they make no array. The elements are numbers, texts that spell numbers, or null, which stands for
a value that is no number.
-/

namespace HrirAtlas.Nested

variable {α : Type}

/-! ## Shape -/

/-- The greatest number of axes. -/
def maxAxes : Nat := 64

/-- What a walk has found of the shape. -/
structure Outline where
  /-- The lengths of the axes, outermost first. -/
  lengths : List Nat := []
  /-- The number of axes, as far as is known. -/
  axes : Nat := maxAxes
  /-- Whether a first path has been walked to its end. -/
  settled : Bool := false
  /-- Whether two lists disagree. -/
  ragged : Bool := false
deriving Repr, DecidableEq

namespace Outline

/-- Meets a value that is no list, `depth` lists down. -/
def value (o : Outline) (depth : Nat) : Outline :=
  if o.axes = depth then { o with settled := true }
  else { o with axes := depth, ragged := o.ragged || o.settled, settled := true }

/-- Meets a list below the last axis. -/
def deeper (o : Outline) : Outline := { o with ragged := true, settled := true }

/-- Meets a list whose length is not that of its axis. -/
def disagree (o : Outline) (depth : Nat) : Outline := { o with axes := depth, ragged := true }

/-- Meets an empty list, which is the last axis. -/
def close (o : Outline) (depth : Nat) : Outline := { o with axes := depth + 1, settled := true }

/-- The lengths of the axes that all lists share. -/
def shape (o : Outline) : List Nat := o.lengths.take o.axes

end Outline

mutual

/-- Walks a value that stands `depth` lists down. -/
def survey (depth : Nat) (o : Outline) : Setting α → Outline
  | .list items =>
    if o.axes = depth then o.deeper
    else if o.settled ∧ o.lengths[depth]? ≠ some items.length then o.disagree depth
    else
      let o := if o.settled then o else { o with lengths := o.lengths ++ [items.length] }
      if items.isEmpty then o.close depth else surveyAll (depth + 1) o items
  | _ => o.value depth

/-- Walks the items of a list. -/
def surveyAll (depth : Nat) (o : Outline) : List (Setting α) → Outline
  | [] => o
  | item :: rest => surveyAll depth (survey depth o item) rest

end

/-- The shape of nested lists. -/
def shape? (s : Setting α) : Except ShapeFault (List Nat) :=
  let o := survey 0 {} s
  if !o.ragged then .ok o.shape
  else if o.axes = maxAxes then .error (.tooDeep maxAxes)
  else .error (.ragged o.shape)

/-! ## Elements -/

variable [Scalar α]

/-- A value that is no number. -/
def blank : α := 0.0 / 0.0

/-- The number that an element stands for. -/
def element : Setting α → Except (Fault α) α
  | .null => .ok blank
  | .number n =>
    let x : α := n.toScalar
    match n, Scalar.reading x with
    | .int _, .infinite _ => .error .hugeNumber
    | _, _ => .ok x
  | .text s =>
    match Scalar.ofText? s with
    | some x => .ok x
    | none => .error (.setting (.noNumberText (Text.quoted s)))
  | other => .error (.setting (.noNumber other.kind))

mutual

/-- The elements of nested lists in order. -/
def elements : Setting α → Except (Fault α) (List α)
  | .list items => elementsOfAll items
  | other => (element other).map ([·])

def elementsOfAll : List (Setting α) → Except (Fault α) (List α)
  | [] => .ok []
  | item :: rest => do
    let first ← elements item
    return first ++ (← elementsOfAll rest)

end

/-- The array that nested lists stand for. -/
def tensor (s : Setting α) : Except (Fault α) (Tensor α) := do
  let shape ← (shape? s).mapError .shape
  return ⟨shape, (← elements s).toArray⟩

end HrirAtlas.Nested
