import HrirAtlas.Journal
import HrirAtlas.Signal

/-
A rate converter for one pair of rates. The rates are whole; the factors by which the rate is
raised and lowered are the rates divided by their common divisor. Until rates are set, and between
equal rates, a signal passes unchanged. Rates that are not positive are refused and leave the
converter as it was.
-/

namespace HrirAtlas

/-- A rate converter. -/
structure Resampler (α : Type) [Signal α] where
  sourceRate : Int := 0
  targetRate : Int := 0
  up : Nat := 1
  down : Nat := 1
  /-- The taps of the filter, made when they are first needed. -/
  taps : Thunk (Array α) := Thunk.mk fun _ => Signal.lowpass up down
  taps_eq : taps.get = Signal.lowpass up down := by rfl

namespace Resampler

variable {α : Type} [Signal α]

/-- A converter between rates given as parameters. -/
def set (source target : Setting α) : Except (Fault α) (Resampler α) := do
  let source ← source.toInt.mapError Setting.IntegerFault.toFault
  let target ← target.toInt.mapError Setting.IntegerFault.toFault
  if source ≤ 0 ∨ target ≤ 0 then throw (.rates source target)
  let divisor := source.gcd target
  return {
    sourceRate := source
    targetRate := target
    up := target.toNat / divisor
    down := source.toNat / divisor }

/-- Gives a converter other rates. Rates that are refused leave it as it was. -/
def reset (source target : Setting α) : EStateM (Fault α) (Resampler α) Unit := fun r =>
  match set source target with
  | .ok next => .ok () next
  | .error cause => .error cause r

/-- The report of a converter that was set. -/
def entry (r : Resampler α) : Entry :=
  ⟨.debug, .resampler, "resampler: " ++ toString r.sourceRate ++ " -> " ++ toString r.targetRate
    ++ " (up " ++ toString r.up ++ ", down " ++ toString r.down ++ ")"⟩

/-- The signal at the target rate. -/
def resampled (r : Resampler α) (signal : Array α) : Array α :=
  if r.up = r.down then signal else Signal.convert r.taps.get r.up r.down signal

/-- Writes the signal at the target rate over the whole of a row: what does not fit is cut off, and
what is left of the row is silent. -/
def process (r : Resampler α) (signal row : Array α) : Array α :=
  let values := r.resampled signal
  row.mapIdx fun place _ => values.getD place 0.0

end Resampler

end HrirAtlas
