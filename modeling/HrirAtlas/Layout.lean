import HrirAtlas.Decimal.Digits
import HrirAtlas.Number

/-
The layout of one distance field: the rows of a grid that is symmetric about the equator, from
`-evLimit` up to `evLimit` in equal steps, each with a count of equally spaced azimuths. Rows below
`evStart` were not measured. Layouts that no grid of an engine can have are `LayoutFault`s.
-/

namespace HrirAtlas

/-- A distance field without its responses. Row zero is the lowest. -/
structure Layout (α : Type) where
  distance : α
  evLimit : α
  evStart : Int
  azCounts : List Int
deriving Repr, DecidableEq

namespace Layout

variable {α : Type} [Scalar α]

/-- A list of integers between brackets. -/
def countsText (counts : List Int) : String := "[" ++ ", ".intercalate (counts.map toString) ++ "]"

/-- The layout as the journal shows it. -/
def text (l : Layout α) : String :=
  "SofaField(distance=" ++ Decimal.fixed false 3 (Scalar.reading l.distance)
    ++ ", ev_limit=" ++ Decimal.fixed false 2 (Scalar.reading l.evLimit)
    ++ ", ev_start=" ++ toString l.evStart ++ ", az_counts=" ++ countsText l.azCounts ++ ")"

/-! ## Bounds of a grid -/

/-- Distance fields of a data set. -/
def maxFields : Nat := 16

/-- Rows of a field. -/
def maxRows : Nat := 181

def minRows : Nat := 3

/-- Azimuths of a row. -/
def maxAzimuths : Nat := 255

/-- A row with fewer azimuths holds stray measurements. -/
def minAzimuths : Nat := 2

/-- An elevation beyond this, up or down, is a pole. -/
def poleElevation : α := 89.999

/-- Angles this close are the same. -/
def angleTolerance : α := 0.1

end Layout

/-- Why positions do not fit a grid. -/
inductive LayoutFault (α : Type) where
  /-- More distances than fields. -/
  | tooManyDistances (count : Nat)
  /-- A pole that is not one point. -/
  | splitPole (elevation distance : α)
  /-- Azimuths of a row that are no equal division of the circle. -/
  | unevenAzimuths (elevation distance : α)
  /-- No row above the equator, or none that reaches down to it. -/
  | missingElevations (distance : α)
  /-- A single row. -/
  | tooFewElevations (distance : α)
  /-- Rows that are no equal division of the elevations. -/
  | unevenElevations (distance : α) (found : List α)
  /-- A grid with too few rows. -/
  | tooFewRows (distance : α)
  /-- A grid with too many rows. -/
  | tooManyRows (count : Int) (distance : α)
  /-- More azimuths in a row than in the next one toward the equator. -/
  | denserPoleward (lower : α) (lowerCount : Int) (upper : α) (upperCount : Int) (distance : α)
  /-- No distance with a usable row. -/
  | noField
deriving Repr, DecidableEq

namespace LayoutFault

variable {α : Type} [Scalar α]

/-- Degrees with a sign and two decimals. -/
def degrees (x : α) : String := Decimal.fixed true 2 (Scalar.reading x)

/-- Metres with three decimals. -/
def metres (x : α) : String := Decimal.fixed false 3 (Scalar.reading x)

def message : LayoutFault α → String
  | tooManyDistances count =>
    "Incompatible layout (inumerable radii): " ++ toString count ++ " > " ++ toString Layout.maxFields ++ " distances."
  | splitPole elevation distance =>
    "Non-singular pole " ++ degrees elevation ++ " on field distance " ++ metres distance ++ "."
  | unevenAzimuths elevation distance =>
    "Non-uniform azimuths on elevation " ++ degrees elevation ++ ", field distance " ++ metres distance ++ "."
  | missingElevations distance => "Too many missing elevations on field distance " ++ metres distance ++ "."
  | tooFewElevations distance => "Too few elevations on field distance " ++ metres distance ++ "."
  | unevenElevations distance found =>
    "Non-uniform elevations on field distance " ++ metres distance ++ ". Found: "
      ++ ", ".intercalate (found.map degrees)
  | tooFewRows distance => "Too few uniform elevations on field distance " ++ metres distance ++ "."
  | tooManyRows count distance =>
    "Too many elevations (" ++ toString count ++ ") on field distance " ++ metres distance ++ "."
  | denserPoleward lower lowerCount upper upperCount distance =>
    "Azimuth count grows toward the pole between elevations " ++ degrees lower ++ " (" ++ toString lowerCount
      ++ ") and " ++ degrees upper ++ " (" ++ toString upperCount ++ ") on field distance " ++ metres distance ++ "."
  | noField => "Incompatible layout (no usable fields)."

end LayoutFault

end HrirAtlas
