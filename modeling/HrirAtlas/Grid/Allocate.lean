import HrirAtlas.Layout.Detect
import HrirAtlas.Session

/-
Allocation of a grid for layouts. Storage indices are given out by walking the fields, the rows of
a field from the lowest up, and the slots of a row; each slot starts with an empty content of its
own, and the buffer is silent. A layout with a single row has no step between rows, which ends the
allocation after the fields before it.
-/

namespace HrirAtlas.Grid

variable {α : Type} [Scalar α]

/-- The slots of a row of `count` azimuths, with storage indices from `next` on. -/
def newSlots (count next : Nat) : List (Slot α) :=
  (List.range count).map fun (column : Nat) =>
    { azimuth := Scalar.ofInt column * 360.0 / Scalar.ofInt count
      index := next + column
      content := next + column }

/-- The elevation of a row of a field with `count` rows. -/
def rowElevation (evLimit : α) (count row : Nat) : Except ArithmeticFault α := do
  let above ← Scalar.divide (Scalar.ofInt row * (2.0 * evLimit)) (Scalar.ofInt ((count : Int) - 1))
  return -evLimit + above

/-- The rows from `row` on of a field with `count` rows, and the storage index after them. -/
def newRows (evLimit : α) (count row next : Nat) :
    List Int → Except ArithmeticFault (List (Row α) × Nat)
  | [] => .ok ([], next)
  | azimuths :: rest => do
    let elevation ← rowElevation evLimit count row
    let slots := newSlots azimuths.toNat next
    let (rows, last) ← newRows evLimit count (row + 1) (next + azimuths.toNat) rest
    return ({ elevation, slots } :: rows, last)

/-- The fields of the layouts up to the first that has none, the storage index after them, and why
that layout has none. -/
def newFields (next : Nat) : List (Layout α) → List (Field α) × Nat × Option ArithmeticFault
  | [] => ([], next, none)
  | layout :: rest =>
    match newRows layout.evLimit layout.azCounts.length 0 next layout.azCounts with
    | .error cause => ([], next, some cause)
    | .ok (rows, last) =>
      let (fields, total, cause) := newFields last rest
      ({ distance := layout.distance, evLimit := layout.evLimit, evStart := layout.evStart, rows } :: fields,
        total, cause)

/-- Puts the grid of the layouts in place of the one before. -/
def allocate (layouts : List (Layout α)) : Stage α Unit := do
  let d ← Stage.data
  let (fields, count, cause) := newFields 0 layouts
  let d := { d with fields, contents := Array.replicate count (Content.empty d.channels) }
  Stage.setData d
  match cause with
  | some cause => Stage.fail (.arithmetic cause)
  | none =>
    Stage.setData { d with irCount := count }
    Stage.ofShape (checkSize [d.channels, count, d.irSize])
    Stage.setData { d with irCount := count, buffer := some (Buffer.silent d.channels count d.irSize.toNat) }
    Stage.report .info .grid <|
      "prepare hrir data: " ++ toString fields.length ++ " fields, " ++ toString count ++ " IRs, "
        ++ toString d.channels ++ " channels, " ++ toString d.irSize ++ " samples each"

/-- Detects the layouts of the positions, and reports how many of them the grid has room for. -/
def survey (positions : List (Spherical α)) : Stage α (List (Layout α)) := do
  Stage.report .info .layout "Detecting compatible layout..."
  let (entries, found) := Layout.detect positions
  Stage.reportAll entries
  let layouts ← Stage.ofExcept found
  let measured := layouts.flatMap fun l => l.azCounts.drop (clampIndex l.azCounts.length l.evStart)
  Stage.report .info .layout <|
    "Using " ++ toString (measured.foldl (· + ·) 0) ++ " of " ++ toString positions.length ++ " IRs."
  return layouts

/-- Detects the layouts of the positions and allocates their grid. -/
def prepare (positions : List (Spherical α)) : Stage α Unit := do
  allocate (← survey positions)

end HrirAtlas.Grid
