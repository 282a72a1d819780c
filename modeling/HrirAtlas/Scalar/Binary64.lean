import HrirAtlas.Scalar.Trig
import HrirAtlas.Decimal.Read
import HrirAtlas.Decimal.Shortest

/-
The scalar of a run: binary floating point with 64 bits. A value is read by splitting its bits
into sign, exponent and significand; the remainder is taken on the integers so found, where it is
exact. The length of a plane vector is found with both sides scaled by a power of two.
-/

namespace HrirAtlas.Binary64

/-- The value of a magnitude that is a multiple of a power of two and fits the significand. -/
def ofMultiple (negative : Bool) (significand : Nat) (exponent : Int) : Float :=
  let magnitude := (Float.ofNat significand).scaleB exponent
  if negative then -magnitude else magnitude

/-- The exact remainder toward zero, on significands brought to the lower exponent. -/
def rem (x y : Float) : Float :=
  match ofFloat x, ofFloat y with
  | .finite negative m e, .finite _ n f =>
    if n = 0 then 0.0 / 0.0
    else
      let low := min e f
      ofMultiple negative ((m <<< (e - low).toNat) % (n <<< (f - low).toNat)) low
  | .finite .., .infinite _ => x
  | _, _ => 0.0 / 0.0

/-- The length of a plane vector; an infinite side makes it infinite. -/
def hypot (x y : Float) : Float :=
  let width := x.abs
  let height := y.abs
  if width == 1.0 / 0.0 || height == 1.0 / 0.0 then 1.0 / 0.0
  else
    let longer := if width < height then height else width
    if longer == 0.0 || longer.isNaN then width + height
    else
      let exponent := longer.frExp.2
      let w := width.scaleB (-exponent)
      let h := height.scaleB (-exponent)
      (w * w + h * h).sqrt.scaleB exponent

instance : Scalar Float where
  decideLT := inferInstance
  decideLE := inferInstance
  ofInt := Float.ofInt
  reading x := (ofFloat x).reading
  rem := rem
  text x := (ofFloat x).text
  ofText? := Decimal.readFloat?

instance : Trig Float where
  sqrt := Float.sqrt
  hypot := hypot
  sin := Float.sin
  cos := Float.cos
  angle := Float.atan2
  radiansPerDegree := 3.141592653589793 / 180.0
  degreesPerRadian := 180.0 / 3.141592653589793

end HrirAtlas.Binary64
