import HrirAtlas.Layout
import HrirAtlas.Tensor

/-
Equal divisions. A row of azimuths is a division of the circle when the least gap divides the
circle and every azimuth is near a multiple of that step; azimuths may be missing. Elevations are a
division when, from the top down, they are near the first rows of a grid that is symmetric about
the equator; the finest such grid wins. The azimuths of a grid must not get denser toward a pole.
-/

namespace HrirAtlas.Layout

variable {α : Type} [Scalar α]

/-! ## Azimuths of a row -/

/-- The gaps from each azimuth of a row to the next one, and from the last to the closing one. -/
def gapsAfter (closing : α) (azimuth : α) : List α → List α
  | [] => [closing - azimuth]
  | next :: rest => (next - azimuth) :: gapsAfter closing next rest

/-- Whether a value is farther than the tolerance from every multiple of a step. -/
def offGrid (tolerance step value : α) : Except ArithmeticFault Bool := do
  let multiple ← Scalar.round (← Scalar.divide value step)
  return decide (Scalar.abs (value - Scalar.ofInt multiple * step) > tolerance)

/-- Whether every value of a row is near a multiple of a step. -/
def allOnGrid (tolerance step : α) : List α → Except ArithmeticFault Bool
  | [] => .ok true
  | value :: rest => do
    if ← offGrid tolerance step value then return false else allOnGrid tolerance step rest

/-- How many azimuths the full row has that holds the given ones, if there is such a row. -/
def azimuthCount? (tolerance : α) : List α → Except ArithmeticFault (Option Nat)
  | first :: second :: rest => do
    let least := Scalar.least (second - first) (gapsAfter (first + 360.0) second rest)
    let count ← Scalar.round (← Scalar.divide 360.0 least)
    if count < minAzimuths ∨ (maxAzimuths : Int) < count then return none
    let step := (360.0 : α) / Scalar.ofInt count
    if Scalar.abs (least - step) > tolerance then return none
    return if ← allOnGrid tolerance step (first :: second :: rest) then some count.toNat else none
  | _ => .ok none

/-! ## Elevations of a field -/

/-- Whether elevations, from the top down, are near the rows `top`, `top - step`, and so on. -/
def rowsFit (tolerance top step : α) (row : Nat) : List α → Bool
  | [] => true
  | elevation :: rest =>
    !decide (Scalar.abs (elevation - (top - Scalar.ofInt row * step)) > tolerance)
      && rowsFit tolerance top step (row + 1) rest

/-- The step of the finest grid with at most `count` steps from pole side to pole side that the
elevations fit. -/
def finestStep? (tolerance top : α) (elevations : List α) : Nat → Option α
  | 0 => none
  | count + 1 =>
    if count + 2 < elevations.length then none
    else
      let step := 2.0 * top / Scalar.ofInt (count + 1)
      if rowsFit tolerance top step 0 elevations then some step
      else finestStep? tolerance top elevations count

/-- The step of the finest grid, symmetric about the equator, whose highest rows are the given
elevations. -/
def elevationStep? (tolerance : α) (elevations : List α) : Except ArithmeticFault (Option α) :=
  match elevations.mergeSort (fun x y => !decide (x < y)) with
  | top :: second :: rest => do
    if top ≤ 0.0 then return none
    let count ← Scalar.ceil (← Scalar.divide (2.0 * top) (top - second))
    return finestStep? tolerance top (top :: second :: rest) (min count (maxRows - 1)).toNat
  | _ => .ok none

/-! ## Density -/

/-- Whether two neighbouring rows get denser away from the equator; rows within the tolerance of
the equator count for both sides. -/
def denser (lower upper : α) (lowerCount upperCount : Int) : Bool :=
  (decide (upper ≤ angleTolerance) && decide (lowerCount > upperCount))
    || (decide (-angleTolerance ≤ lower) && decide (lowerCount < upperCount))

/-- Checks the neighbouring rows from a given one upward. -/
def checkDensityFrom (evLimit step distance : α) (row : Nat) : List Int → Except (LayoutFault α) Unit
  | lowerCount :: upperCount :: rest =>
    let lower := -evLimit + Scalar.ofInt row * step
    let upper := lower + step
    if denser lower upper lowerCount upperCount then
      .error (.denserPoleward lower lowerCount upper upperCount distance)
    else checkDensityFrom evLimit step distance (row + 1) (upperCount :: rest)
  | _ => .ok ()

/-- Fails at the first neighbouring rows that get denser away from the equator. -/
def checkDensity (azCounts : List Int) (evLimit step distance : α) : Except (LayoutFault α) Unit :=
  checkDensityFrom evLimit step distance 0 azCounts

end HrirAtlas.Layout
