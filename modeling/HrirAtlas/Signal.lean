import HrirAtlas.Fault
import HrirAtlas.Scalar.Trig

/-
What the import asks of signal processing: a low-pass filter for a ratio of rates, the filtering of
a signal between two rates, and the discrete Fourier transform.
-/

namespace HrirAtlas

/-- A complex number. -/
structure Complex (α : Type) where
  re : α
  im : α
deriving Repr, DecidableEq

/-- Scalars with rate conversion and a Fourier transform. -/
class Signal (α : Type) extends Trig α where
  /-- The taps of the filter that raises a rate `up` times and lowers it `down` times. -/
  lowpass (up down : Nat) : Array α
  /-- The signal at the rate raised `up` times, filtered, and lowered `down` times. -/
  convert (taps : Array α) (up down : Nat) (signal : Array α) : Array α
  /-- The discrete Fourier transform. -/
  transform (signal : Array (Complex α)) : Array (Complex α)

namespace Signal

variable {α : Type}

/-- The row with its first places overwritten by values. -/
def overwrite (row values : Array α) : Array α := values ++ row.extract values.size row.size

/-- The values written over the first `count` places of the row: as many, or one for all. -/
def writeHead (row : Array α) (count : Nat) (values : Tensor α) : Except ShapeFault (Array α) :=
  (values.spread (min count row.size)).map (overwrite row)

/-- The transform of a signal, written over the signal. -/
def transformInPlace [Signal α] (signal : Array (Complex α)) : Except ShapeFault (Array (Complex α)) :=
  if signal.isEmpty then .error (.noPoints 0)
  else
    let spectrum := Signal.transform signal
    .ok (signal.mapIdx fun place old => spectrum.getD place old)

/-- The least magnitude that is kept. -/
def magnitudeFloor [Scalar α] : α := 1e-9

/-- How many bins of a spectrum of the given size are told apart. -/
def bins (size : Nat) : Nat := 1 + size / 2

/-- The magnitudes of the lower half of a spectrum, written over the head of a row. -/
def magnitudes [Signal α] (spectrum : Array (Complex α)) (row : Array α) : Except ShapeFault (Array α) :=
  let values := (spectrum.extract 0 (bins spectrum.size)).map fun z =>
    Scalar.atLeast magnitudeFloor (Trig.hypot z.re z.im)
  writeHead row (bins spectrum.size) (Tensor.row values)

end Signal

end HrirAtlas
