import HrirAtlas.Grid
import HrirAtlas.Position

/-
Finding the slot for a position. The field is the one at the same distance; the row and the column
are the nearest by steps of the grid, if they are within a tenth of a step. The grid counts
azimuths clockwise, and at a pole there is only one.
-/

namespace HrirAtlas.Grid

variable {α : Type} [Scalar α]

/-- Positions this close to the distance of a field belong to it, in metres. -/
def distanceTolerance : α := 0.001

/-- Positions this close to a row or column belong to it, in steps of the grid. -/
def slotTolerance : α := 0.1

/-- The clockwise azimuth of a position; zero at a pole. -/
def clockwise (p : Spherical α) : α :=
  if Layout.poleElevation ≤ Scalar.abs p.elevation then 0.0 else Scalar.rem (360.0 - p.azimuth) 360.0

/-- The place of the first field at a distance. -/
def findField? (fields : List (Field α)) (distance : α) : Option Nat :=
  fields.findIdx? fun f => decide (Scalar.abs (distance - f.distance) < distanceTolerance)

/-- The nearest whole number to a count of steps, if it is within the tolerance. -/
def nearestStep? (steps : α) : Except ArithmeticFault (Option Int) := do
  let nearest ← Scalar.round steps
  return if slotTolerance ≤ Scalar.abs (steps - Scalar.ofInt nearest) then none else some nearest

/-- The slot of a row at a clockwise azimuth. -/
def slotInRow? (row : Row α) (azimuth : α) : Except ArithmeticFault (Option (Slot α)) := do
  let spacing ← Scalar.divide 360.0 (Scalar.ofInt row.slots.length)
  match ← nearestStep? (← Scalar.divide azimuth spacing) with
  | none => return none
  | some column => return row.slots[(column % row.slots.length).toNat]?

/-- The slot of a field so many rows above the lowest and at a clockwise azimuth. -/
def slotAbove? (f : Field α) (rowsAbove azimuth : α) : Except ArithmeticFault (Option (Slot α)) := do
  let row ← Scalar.round rowsAbove
  if row < 0 ∨ (f.rows.length : Int) ≤ row then return none
  if slotTolerance ≤ Scalar.abs (rowsAbove - Scalar.ofInt row) then return none
  match f.rows[row.toNat]? with
  | none => return none
  | some found => slotInRow? found azimuth

/-- The slot of a field at a clockwise azimuth and an elevation. Where the step between rows is zero
the quotient is infinite or no number, and its rounding is refused. -/
def findSlot? (f : Field α) (azimuth elevation : α) : Except ArithmeticFault (Option (Slot α)) := do
  slotAbove? f ((elevation + f.evLimit) / (← f.evStep)) azimuth

/-- The slot of a field at a clockwise azimuth and an elevation, for a step between rows that must
not be zero. -/
def lookUp? (f : Field α) (azimuth elevation : α) : Except ArithmeticFault (Option (Slot α)) := do
  slotAbove? f (← Scalar.divide (elevation + f.evLimit) (← f.evStep)) azimuth

/-- The slot for a position, if the grid has one. -/
def resolve? (fields : List (Field α)) (p : Spherical α) : Except ArithmeticFault (Option (Slot α)) :=
  match (findField? fields p.distance).bind (fields[·]?) with
  | none => .ok none
  | some f => findSlot? f (clockwise p) p.elevation

end HrirAtlas.Grid
