import HrirAtlas.Magnitude.Pool
import HrirAtlas.Proofs.Tensor

/-
The scratch row of a worker carries nothing from one response to the next: only its length reaches
the result, and every use keeps that length. So the magnitudes of a response are a function of the
response alone, `outcome`, whichever worker takes them and whatever it took before.
-/

namespace HrirAtlas

namespace Magnitude

variable {α : Type} [Signal α]

theorem prepare_congr (points : Int) {s s' : Array (Complex α)} (h : s.size = s'.size) (response : Array α) :
    prepare points s response = prepare points s' response := by
  unfold prepare; rw [h]

theorem prepare_size {points : Int} {s filled : Array (Complex α)} {response : Array α}
    (h : prepare points s response = .ok filled) : filled.size = s.size := by
  unfold prepare at h
  simp only [bind, Except.bind, pure, Except.pure] at h
  split at h
  · cases h
  · rename_i values hv
    cases h
    have hle := clampIndex_le s.size points
    rw [Array.size_append, Array.size_replicate, Tensor.size_of_spread_row hv]
    omega

theorem transformInPlace_size {s t : Array (Complex α)} (h : Signal.transformInPlace s = .ok t) :
    t.size = s.size := by
  unfold Signal.transformInPlace at h
  split at h
  · cases h
  · cases h; exact Array.size_mapIdx

/-- Every bin that the transform has of a signal is written over its place. -/
theorem getElem?_transformInPlace {s t : Array (Complex α)} (h : Signal.transformInPlace s = .ok t) {place : Nat}
    {z : Complex α} (hplace : place < s.size) (hz : (Signal.transform s)[place]? = some z) : t[place]? = some z := by
  unfold Signal.transformInPlace at h
  split at h
  · cases h
  · cases h
    rw [Array.getElem?_mapIdx, Array.getElem?_eq_getElem hplace, Option.map_some, Array.getD_eq_getD_getElem?, hz,
      Option.getD_some]

/-- Where the transform has as many bins as the signal has samples, what is written is the transform. -/
theorem transformInPlace_eq {s t : Array (Complex α)} (hsize : (Signal.transform s).size = s.size)
    (h : Signal.transformInPlace s = .ok t) : t = Signal.transform s := by
  refine Array.ext ((transformInPlace_size h).trans hsize.symm) fun place hplace hbin => ?_
  have hwritten := getElem?_transformInPlace h (hsize ▸ hbin) (Array.getElem?_eq_getElem hbin)
  rwa [Array.getElem?_eq_getElem hplace, Option.some.injEq] at hwritten

/-- Using a scratch row keeps its length, also when the use ends in a fault. -/
theorem replaceHead_size (points : Int) (s : Array (Complex α)) (response : Array α) :
    (replaceHead points s response).1.size = s.size := by
  unfold replaceHead
  split
  · rfl
  · rename_i filled hf
    split
    · exact prepare_size hf
    · rename_i spectrum hs
      exact (transformInPlace_size hs).trans (prepare_size hf)

/-- What was in the scratch row does not matter. -/
theorem replaceHead_scratch (points : Int) {s s' : Array (Complex α)} (h : s.size = s'.size)
    (response : Array α) : (replaceHead points s response).2 = (replaceHead points s' response).2 := by
  unfold replaceHead
  rw [prepare_congr points h]
  split
  · rfl
  · split <;> rfl

namespace Pool

/-- The scratch row of a worker that has not used it yet. -/
def freshScratch (p : Pool α) : Array (Complex α) := Array.replicate p.fftSize.toNat (ofReal 0.0)

/-- The magnitudes of the response in a row, taken once with a fresh scratch row. -/
def outcome (p : Pool α) (row : Nat) : Except ShapeFault (Array α) :=
  (replaceHead p.points p.freshScratch (p.rows.getD row #[])).2

/-- What a row holds after its work: its magnitudes, or the response still, where the work fails. -/
def settled (p : Pool α) (row : Nat) : Array α :=
  match p.outcome row with
  | .ok samples => samples
  | .error _ => p.rows.getD row #[]

theorem settled_of_ok {p : Pool α} {row : Nat} {samples : Array α} (h : p.outcome row = .ok samples) :
    p.settled row = samples := by
  unfold settled; rw [h]

theorem settled_of_error {p : Pool α} {row : Nat} {cause : ShapeFault} (h : p.outcome row = .error cause) :
    p.settled row = p.rows.getD row #[] := by
  unfold settled; rw [h]

end Pool

end Magnitude

end HrirAtlas
