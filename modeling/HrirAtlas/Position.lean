import HrirAtlas.Scalar.Trig

/-
Source positions, in metres and degrees. A spherical position has its azimuth counter-clockwise
from the front and its elevation up from the horizontal plane.
-/

namespace HrirAtlas

/-- A position by its three coordinates. -/
structure Cartesian (α : Type) where
  x : α
  y : α
  z : α
deriving Repr, DecidableEq

/-- A position by direction and distance. -/
structure Spherical (α : Type) where
  azimuth : α
  elevation : α
  distance : α
deriving Repr, DecidableEq

variable {α : Type} [Trig α]

/-- Direction and distance of a point; the azimuth lies in [0, 360). -/
def Cartesian.toSpherical (p : Cartesian α) : Spherical α where
  azimuth := Scalar.floorMod (Trig.toDegrees (Trig.angle p.y p.x) + 360.0) 360.0
  elevation := Trig.toDegrees (Trig.angle p.z (Trig.hypot p.x p.y))
  distance := Trig.sqrt (p.x * p.x + p.y * p.y + p.z * p.z)

/-- The point in a direction at a distance. -/
def Spherical.toCartesian (p : Spherical α) : Cartesian α :=
  let azimuth := Trig.toRadians p.azimuth
  let elevation := Trig.toRadians p.elevation
  { x := p.distance * Trig.cos elevation * Trig.cos azimuth
    y := p.distance * Trig.cos elevation * Trig.sin azimuth
    z := p.distance * Trig.sin elevation }

end HrirAtlas
