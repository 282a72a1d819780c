import HrirAtlas.Scalar.Binary64
import HrirAtlas.Signal
import HrirAtlas.Signal.Fourier
import HrirAtlas.Signal.RateFilter

/-
Signal processing in binary floating point.
-/

namespace HrirAtlas

instance : Signal Float where
  lowpass := RateFilter.lowpass
  convert := RateFilter.convert
  transform signal :=
    let spectrum := Fourier.transform
      ⟨FloatArray.mk (signal.map Complex.re), FloatArray.mk (signal.map Complex.im)⟩
    (Array.range signal.size).map fun k => ⟨spectrum.re[k]!, spectrum.im[k]!⟩

end HrirAtlas
