import HrirAtlas.Scalar

/-
Scalars with the functions that relate Cartesian and spherical positions.
-/

namespace HrirAtlas

/-- A scalar with roots, circular functions and the two factors between degrees and radians. -/
class Trig (α : Type) extends Scalar α where
  sqrt : α → α
  /-- The length of a plane vector, found without overflow on the way. -/
  hypot : α → α → α
  sin : α → α
  cos : α → α
  /-- The angle of the plane vector with the given height and width, between half turns. -/
  angle : α → α → α
  radiansPerDegree : α
  degreesPerRadian : α

namespace Trig

variable {α : Type} [Trig α]

def toRadians (degrees : α) : α := degrees * radiansPerDegree

def toDegrees (radians : α) : α := radians * degreesPerRadian

end Trig

end HrirAtlas
