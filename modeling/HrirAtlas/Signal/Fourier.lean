/-
The discrete Fourier transform of a signal of any length, by splitting the length into its prime
factors: a signal of `p * m` points is split into `p` signals of every `p`-th point, and their
transforms are combined with the roots of unity, which stand in one table for the whole transform.
-/

namespace HrirAtlas.Fourier

/-- The values of a function at `0` up to `count`. -/
@[specialize] def tabulate (count : Nat) (f : Nat → Float) : FloatArray :=
  Nat.fold count (fun k _ values => values.push (f k)) (FloatArray.emptyWithCapacity count)

/-- Real and imaginary parts. -/
structure Spectrum where
  re : FloatArray
  im : FloatArray

/-- The roots of unity `exp (-2πik/n)`. -/
def roots (n : Nat) : Spectrum where
  re := tabulate n fun k => Float.cos (2.0 * 3.141592653589793 * k.toFloat / n.toFloat)
  im := tabulate n fun k => -Float.sin (2.0 * 3.141592653589793 * k.toFloat / n.toFloat)

/-- The least factor of `n` among `candidate` and the `fuel` numbers after it. -/
def leastFactorFrom (n : Nat) : Nat → Nat → Nat
  | 0, _ => n
  | fuel + 1, candidate =>
    if n < candidate * candidate then n
    else if n % candidate = 0 then candidate
    else leastFactorFrom n fuel (candidate + 1)

/-- The least prime factor of a number above one. -/
def leastFactor (n : Nat) : Nat := leastFactorFrom n n 2

/-- One point of a combined transform: the real part for each part's point times its root. -/
def combineRe (table : Spectrum) (parts : Array Spectrum) (turn size k : Nat) : Float :=
  Nat.fold parts.size (fun r h total =>
    let root := r * k * turn % table.re.size
    total + (table.re.get! root * parts[r].re.get! (k % size) - table.im.get! root * parts[r].im.get! (k % size))) 0.0

/-- One point of a combined transform: the imaginary part. -/
def combineIm (table : Spectrum) (parts : Array Spectrum) (turn size k : Nat) : Float :=
  Nat.fold parts.size (fun r h total =>
    let root := r * k * turn % table.re.size
    total + (table.re.get! root * parts[r].im.get! (k % size) + table.im.get! root * parts[r].re.get! (k % size))) 0.0

/-- The transform of the `n` points from `offset` on, `stride` apart. The fuel bounds the number of
prime factors of `n`. -/
def transformFrom (table signal : Spectrum) : Nat → Nat → Nat → Nat → Spectrum
  | 0, _, _, offset => ⟨FloatArray.mk #[signal.re[offset]!], FloatArray.mk #[signal.im[offset]!]⟩
  | fuel + 1, n, stride, offset =>
    if n ≤ 1 then ⟨FloatArray.mk #[signal.re[offset]!], FloatArray.mk #[signal.im[offset]!]⟩
    else
      let factor := leastFactor n
      let size := n / factor
      let parts := (Array.range factor).map fun r =>
        transformFrom table signal fuel size (stride * factor) (offset + r * stride)
      ⟨tabulate n (combineRe table parts stride size), tabulate n (combineIm table parts stride size)⟩

/-- The discrete Fourier transform. -/
def transform (signal : Spectrum) : Spectrum :=
  let n := signal.re.size
  if n = 0 then signal else transformFrom (roots n) signal (Nat.log2 n + 1) n 1 0

end HrirAtlas.Fourier
