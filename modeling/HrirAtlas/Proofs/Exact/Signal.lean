import HrirAtlas.Proofs.Exact.Scalar
import HrirAtlas.Signal
import HrirAtlas.Signal.RateFilter

/-
Signal processing on the rational numbers, exact where the true values are rational: roots of
squares, angles (counted in degrees) along the axes and half way between them, the discrete Fourier
transform of one, two and four points, and signals at the points that two rates share. Elsewhere the
values are interpolated along straight lines. A run of the import can be computed exactly with it.
-/

namespace HrirAtlas.Exact

/-! ## Roots and angles -/

/-- The root of a quotient of squares. -/
def sqrt (q : ℚ) : ℚ := (Nat.sqrt q.num.toNat : ℚ) / (Nat.sqrt q.den : ℚ)

/-- The angle of a plane vector in degrees. -/
def angle (height width : ℚ) : ℚ :=
  if |width| + |height| = 0 then 0
  else
    let turn := 90 * |height| / (|width| + |height|)
    let upper := if 0 ≤ width then turn else 180 - turn
    if height < 0 then -upper else upper

/-- The height of a point of the circle, at an angle between no turn and a full one. -/
def heightAt (degrees : ℚ) : ℚ :=
  if degrees ≤ 90 then degrees / 90 else if degrees ≤ 270 then 2 - degrees / 90 else degrees / 90 - 4

/-- An angle brought between no turn and a full one. -/
def withinTurn (degrees : ℚ) : ℚ := degrees - 360 * ⌊degrees / 360⌋

instance : Trig ℚ where
  sqrt := sqrt
  hypot x y := sqrt (x * x + y * y)
  sin degrees := heightAt (withinTurn degrees)
  cos degrees := heightAt (withinTurn (degrees + 90))
  angle := angle
  radiansPerDegree := 1
  degreesPerRadian := 1

/-! ## Rates -/

/-- A sample of a signal at the rate raised `up` times and lowered `down` times. -/
def sampleAt (up down : Nat) (signal : Array ℚ) (k : Nat) : ℚ :=
  let before := signal.getD (k * down / up) 0
  let after := signal.getD (k * down / up + 1) 0
  before + (after - before) * ((k * down % up : Nat) : ℚ) / up

/-! ## Spectra -/

/-- A complex number after quarter turns clockwise. -/
def turned (z : Complex ℚ) (quarters : Nat) : Complex ℚ :=
  match quarters % 4 with
  | 0 => z
  | 1 => ⟨z.im, -z.re⟩
  | 2 => ⟨-z.re, -z.im⟩
  | _ => ⟨-z.im, z.re⟩

/-- A point of the spectrum of a signal of one, two or four points. -/
def bin (signal : List (Complex ℚ)) (k : Nat) : Complex ℚ :=
  signal.zipIdx.foldl (fun total (z, j) =>
    let w := turned z (4 * j * k / signal.length)
    ⟨total.re + w.re, total.im + w.im⟩) ⟨0, 0⟩

instance : Signal ℚ where
  lowpass _ _ := #[]
  convert _ up down signal :=
    (Array.range (RateFilter.convertedLength up down signal.size)).map (sampleAt up down signal)
  transform signal := (Array.range signal.size).map (bin signal.toList)

end HrirAtlas.Exact
