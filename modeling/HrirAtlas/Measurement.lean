import HrirAtlas.Position
import HrirAtlas.Tensor

/-
Measurements as they were taken: positions, impulse responses by measurement, receiver and sample,
the sample rate, and delays in samples for each receiver or for each measurement and receiver.
-/

namespace HrirAtlas

/-- What the delays of a set are given for. -/
inductive DelayKind where
  | absent
  | perReceiver
  | perMeasurement
deriving Repr, DecidableEq

/-- A set of raw measurements. -/
structure MeasurementSet (α : Type) where
  positions : List (Cartesian α)
  responses : Tensor α
  sampleRate : α
  delays : Option (Tensor α)
  delayKind : DelayKind
  emitters : Nat
deriving Repr, DecidableEq

namespace MeasurementSet

variable {α : Type}

/-- How many measurements there are. -/
def measurements (m : MeasurementSet α) : Except ShapeFault Nat := m.responses.axisLength 0

/-- How many receivers there are. -/
def receivers (m : MeasurementSet α) : Except ShapeFault Nat := m.responses.axisLength 1

/-- How many samples a response has. -/
def points (m : MeasurementSet α) : Except ShapeFault Nat := m.responses.axisLength 2

/-- The response of a measurement at a receiver. -/
def response (m : MeasurementSet α) (measurement receiver : Nat) : Except ShapeFault (Tensor α) :=
  m.responses.part [measurement, receiver]

/-- The delay of a measurement at a receiver, where delays are given. -/
def delay (m : MeasurementSet α) (measurement receiver : Nat) : Except ShapeFault (Option (Tensor α)) :=
  match m.delayKind with
  | .absent => .ok none
  | .perReceiver => (given [0, receiver]).map some
  | .perMeasurement => (given [measurement, receiver]).map some
where
  given (indices : List Int) : Except ShapeFault (Tensor α) :=
    match m.delays with
    | none => .error .absent
    | some delays => delays.part indices

end MeasurementSet

end HrirAtlas
