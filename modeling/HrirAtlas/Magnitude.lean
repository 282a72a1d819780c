import HrirAtlas.Signal

/-
The magnitude response of an impulse response. A scratch row of complex numbers as long as the
transform takes the head of the response, silent beyond it, and is transformed in place; the
magnitudes of its lower half are written over the head of the response.
-/

namespace HrirAtlas.Magnitude

variable {α : Type} [Signal α]

/-- A real number as a complex one. -/
def ofReal (x : α) : Complex α := ⟨x, 0.0⟩

/-- The scratch row with the head of a response in its first places and silence in the others.
Bounds are counted from the end when negative. -/
def prepare (points : Int) (scratch : Array (Complex α)) (response : Array α) :
    Except ShapeFault (Array (Complex α)) := do
  let head := (response.extract 0 (clampIndex response.size points)).map ofReal
  let place := clampIndex scratch.size points
  let values ← (Tensor.row head).spread place
  return values ++ Array.replicate (scratch.size - place) (ofReal 0.0)

/-- The response with the magnitudes of its first samples in its head, and the scratch row after
its use; a fault leaves the response alone. -/
def replaceHead (points : Int) (scratch : Array (Complex α)) (response : Array α) :
    Array (Complex α) × Except ShapeFault (Array α) :=
  match prepare points scratch response with
  | .error cause => (scratch, .error cause)
  | .ok filled =>
    match Signal.transformInPlace filled with
    | .error cause => (filled, .error cause)
    | .ok spectrum => (spectrum, Signal.magnitudes spectrum response)

end HrirAtlas.Magnitude
