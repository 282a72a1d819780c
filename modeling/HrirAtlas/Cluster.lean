import HrirAtlas.Position
import HrirAtlas.Tensor

/-
Distinct values along one axis of scattered positions. The positions that match the filters of the
other axes are taken in ascending order, and a value joins the cluster before it while it is
within the tolerance of the first value of that cluster. So a cluster is known by its least value,
and the least values are more than the tolerance apart.
-/

namespace HrirAtlas

/-- The axes of a spherical position. -/
inductive Axis where
  | azimuth | elevation | distance
deriving Repr, DecidableEq

namespace Axis

def all : List Axis := [azimuth, elevation, distance]

/-- The place of an axis among the three. -/
def index : Axis → Nat
  | azimuth => 0
  | elevation => 1
  | distance => 2

/-- The axis at a place, counted from the end when negative. -/
def ofIndex (index : Int) : Except ShapeFault Axis :=
  match (wrapIndex? 3 index).bind (all[·]?) with
  | some axis => .ok axis
  | none => .error (.axisIndex index 1 3)

/-- The coordinate of a position along an axis. -/
def of {α : Type} (p : Spherical α) : Axis → α
  | azimuth => p.azimuth
  | elevation => p.elevation
  | distance => p.distance

end Axis

/-- One value for each axis. -/
structure PerAxis (β : Type) where
  azimuth : β
  elevation : β
  distance : β
deriving Repr, DecidableEq

def PerAxis.of {β : Type} (values : PerAxis β) : Axis → β
  | .azimuth => values.azimuth
  | .elevation => values.elevation
  | .distance => values.distance

namespace Cluster

variable {α : Type} [Scalar α]

/-- Angles are told apart by more than a tenth of a degree, distances by more than a millimetre. -/
def tolerances : PerAxis α := ⟨0.1, 0.1, 0.001⟩

/-- Whether a position lies in the window of a filter, where one is set. -/
def passes (tolerance : α) (filter : Option α) (value : α) : Bool :=
  match filter with
  | none => true
  | some centre => decide (Scalar.abs (value - centre) ≤ tolerance)

/-- Whether a position lies in the windows of all filters. -/
def matchesAll (tolerances : PerAxis α) (filters : PerAxis (Option α)) (p : Spherical α) : Bool :=
  Axis.all.all fun axis => passes (tolerances.of axis) (filters.of axis) (axis.of p)

/-- The first values of the clusters in an ascending list, after the last one found. -/
def heads (tolerance : α) (last : α) : List α → List α
  | [] => []
  | value :: rest =>
    if value - last ≤ tolerance then heads tolerance last rest
    else value :: heads tolerance value rest

/-- The first values of the clusters in an ascending list. -/
def ofSorted (tolerance : α) : List α → List α
  | [] => []
  | value :: rest => value :: heads tolerance value rest

/-- The distinct values of a list, ascending. -/
def distinct (tolerance : α) (values : List α) : List α :=
  ofSorted tolerance (values.mergeSort Scalar.sortsBefore)

/-- The distinct coordinates along an axis of the positions that match the filters. -/
def along (axis : Axis) (filters : PerAxis (Option α)) (tolerances : PerAxis α)
    (positions : List (Spherical α)) : List α :=
  distinct (tolerances.of axis) ((positions.filter (matchesAll tolerances filters)).map axis.of)

/-! ## Filters given as lists -/

/-- The tolerances of the axes that have a filter, and all filters, from lists that may be short. -/
def window (filters : List (Option α)) (tolerances : List α) :
    List Axis → Except ShapeFault (List (Axis × α × α))
  | [] => .ok []
  | axis :: rest =>
    match filters[axis.index]? with
    | none => .error .missingAxis
    | some none => window filters tolerances rest
    | some (some centre) =>
      match tolerances[axis.index]? with
      | none => .error .missingAxis
      | some tolerance => (window filters tolerances rest).map ((axis, centre, tolerance) :: ·)

/-- The distinct coordinates along the axis at a place, for filters and tolerances in lists. A
tolerance that the list lacks matters only when there are two coordinates to compare. -/
def query (index : Int) (filters : List (Option α)) (tolerances : List α)
    (positions : List (Spherical α)) : Except ShapeFault (List α) := do
  let windows ← window filters tolerances Axis.all
  let axis ← Axis.ofIndex index
  let inWindows := fun (p : Spherical α) => windows.all fun (axis, centre, tolerance) =>
    passes tolerance (some centre) (axis.of p)
  let values := (positions.filter inWindows).map axis.of
  match (wrapIndex? tolerances.length index).bind (tolerances[·]?) with
  | some tolerance => return distinct tolerance values
  | none => if values.length < 2 then return values else throw .missingAxis

end Cluster

end HrirAtlas
