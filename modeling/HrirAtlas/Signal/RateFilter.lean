/-
Conversion between two rates by a filter. The filter is a low-pass with its cut-off at the lower of
the two rates, windowed with a Kaiser window and scaled to gain one at zero frequency; a converted
sample is the sum of the samples around it, each weighted by the tap for its distance. The signal
is silent outside its range.
-/

namespace HrirAtlas.RateFilter

/-- Taps on either side of the middle one, for each step of the coarser rate. -/
def halfWidth : Nat := 10

/-- The shape of the window. -/
def windowShape : Float := 5.0

/-- The sum of the terms of the modified Bessel function of order zero from `k` on, where `term` is
the term before. -/
def besselFrom (quarterSquare : Float) : Nat → Float → Float → Float
  | 0, _, _ => 0.0
  | fuel + 1, k, term =>
    let next := term * quarterSquare / (k * k)
    next + besselFrom quarterSquare fuel (k + 1.0) next

/-- The modified Bessel function of order zero, for small arguments. -/
def bessel (x : Float) : Float := 1.0 + besselFrom (x * x / 4.0) 40 1.0 1.0

/-- The cardinal sine. -/
def sinc (x : Float) : Float :=
  let angle := 3.141592653589793 * x
  if angle == 0.0 then 1.0 else angle.sin / angle

/-- The taps for raising a rate `up` times and lowering it `down` times. -/
def lowpass (up down : Nat) : Array Float :=
  let factor := max up down
  let half := halfWidth * factor
  let cutoff := 1.0 / factor.toFloat
  let taps := (Array.range (2 * half + 1)).map fun k =>
    let offset := k.toFloat - half.toFloat
    let ratio := offset / half.toFloat
    cutoff * sinc (cutoff * offset) * (bessel (windowShape * (1.0 - ratio * ratio).sqrt) / bessel windowShape)
  let gain := up.toFloat / taps.foldl (· + ·) 0.0
  taps.map (· * gain)

/-- The length of a signal after conversion. -/
def convertedLength (up down length : Nat) : Nat := (length * up + down - 1) / down

/-- The signal at the rate raised `up` times and lowered `down` times. -/
def convert (taps : Array Float) (up down : Nat) (signal : Array Float) : Array Float :=
  let half := taps.size / 2
  (Array.range (convertedLength up down signal.size)).map fun k =>
    let centre := k * down
    let first := (centre - half + up - 1) / up
    let last := min signal.size ((centre + half) / up + 1)
    Nat.fold (last - first) (fun j _ total =>
      let sample := first + j
      total + signal.getD sample 0.0 * taps.getD (half + centre - sample * up) 0.0) 0.0

end HrirAtlas.RateFilter
