import HrirAtlas.Measurement
import HrirAtlas.Scalar
import HrirAtlas.Proofs.Tensor

/-
What loading takes from measurements: the samples of a response and the delay as it was measured.
In a set of the shapes that the reader accepts both are there for every measurement and receiver.
-/

namespace HrirAtlas

namespace MeasurementSet

variable {α : Type}

/-- The samples of a measurement at a receiver. -/
def samples (m : MeasurementSet α) (measurement receiver : Nat) : Array α :=
  match m.response measurement receiver with
  | .ok response => response.data
  | .error _ => #[]

/-- The delay of a measurement at a receiver in samples, where the set has delays. -/
def measuredDelay [Scalar α] (m : MeasurementSet α) (measurement receiver : Nat) : Option α :=
  match m.delay measurement receiver with
  | .ok delay => delay.map fun t => t.data.getD 0 0.0
  | .error _ => none

/-- The samples of a measurement at a receiver, as they lie in the data of a set with so many receivers
and samples. -/
def samplesAt (m : MeasurementSet α) (receivers points measurement receiver : Nat) : Array α :=
  let place := (measurement * receivers + receiver) * points
  m.responses.data.extract place (place + points)

/-- The delay of a measurement at a receiver, as it lies in the data of a set with so many receivers:
one for each receiver, or one for each measurement and receiver. -/
def delayAt (m : MeasurementSet α) (receivers measurement receiver : Nat) : Option α :=
  match m.delayKind with
  | .absent => none
  | .perReceiver => m.delays.bind (·.data[receiver]?)
  | .perMeasurement => m.delays.bind (·.data[measurement * receivers + receiver]?)

/-- The shapes of a set with so many receivers and samples: a response for every position and
receiver, and delays as the set says they are given. -/
structure Shaped (m : MeasurementSet α) (receivers points : Nat) : Prop where
  shape : m.responses.shape = [m.positions.length, receivers, points]
  size : m.responses.data.size = m.positions.length * receivers * points
  delays : match m.delayKind with
    | .absent => True
    | .perReceiver => ∃ t, m.delays = some t ∧ t.shape = [1, receivers] ∧ t.data.size = receivers
    | .perMeasurement => ∃ t, m.delays = some t ∧ t.shape = [m.positions.length, receivers] ∧
        t.data.size = m.positions.length * receivers

/-- The shapes that the reader accepts: those of a set with a receiver at one ear or at both. -/
structure WellShaped (m : MeasurementSet α) (receivers points : Nat) : Prop extends
    shaped : Shaped m receivers points where
  ears : receivers = 1 ∨ receivers = 2

section Shaped

variable {m : MeasurementSet α} {receivers points : Nat}

theorem place_lt {count measurement receiver : Nat} (hm : measurement < count) (hr : receiver < receivers) :
    measurement * receivers + receiver < count * receivers := by
  calc measurement * receivers + receiver < measurement * receivers + receivers := Nat.add_lt_add_left hr _
    _ = (measurement + 1) * receivers := (Nat.succ_mul _ _).symm
    _ ≤ count * receivers := Nat.mul_le_mul_right _ hm

theorem some_getD_extract {values : Array α} {place : Nat} {default : α} (h : place < values.size) :
    some ((values.extract place (place + 1)).getD 0 default) = values[place]? := by
  rw [Array.getD_eq_getD_getElem?, Array.getElem?_extract, if_pos (by omega), Nat.add_zero,
    Array.getElem?_eq_getElem h, Option.getD_some]

theorem WellShaped.ears_pos (h : m.WellShaped receivers points) : 0 < receivers := by
  rcases h.ears with rfl | rfl <;> decide

theorem Shaped.full (h : m.Shaped receivers points) : m.responses.Full := by
  unfold Tensor.Full
  rw [h.shape, h.size]
  simp [Nat.mul_assoc]

theorem Shaped.measurements_eq (h : m.Shaped receivers points) : m.measurements = .ok m.positions.length := by
  unfold measurements Tensor.axisLength; rw [h.shape]; rfl

theorem Shaped.receivers_eq (h : m.Shaped receivers points) : m.receivers = .ok receivers := by
  unfold MeasurementSet.receivers Tensor.axisLength; rw [h.shape]; rfl

theorem Shaped.points_eq (h : m.Shaped receivers points) : m.points = .ok points := by
  unfold MeasurementSet.points Tensor.axisLength; rw [h.shape]; rfl

theorem Shaped.samples_eq (h : m.Shaped receivers points) {measurement receiver : Nat}
    (hm : measurement < m.positions.length) (hr : receiver < receivers) :
    m.samples measurement receiver = m.samplesAt receivers points measurement receiver := by
  unfold samples response samplesAt
  rw [Tensor.part_natCast_three h.shape hm hr]

/-- Every measurement has a response of full length at every receiver. -/
theorem Shaped.response_eq (h : m.Shaped receivers points) {measurement receiver : Nat}
    (hm : measurement < m.positions.length) (hr : receiver < receivers) :
    m.response measurement receiver = .ok ⟨[points], m.samples measurement receiver⟩ ∧
      (m.samples measurement receiver).size = points := by
  have hlast : (measurement * receivers + receiver) * points + points ≤ m.positions.length * receivers * points := by
    calc (measurement * receivers + receiver) * points + points = (measurement * receivers + receiver + 1) * points :=
          (Nat.succ_mul _ _).symm
      _ ≤ (m.positions.length * receivers) * points := Nat.mul_le_mul_right _ (place_lt hm hr)
  rw [h.samples_eq hm hr]
  constructor
  · unfold response samplesAt
    rw [Tensor.part_natCast_three h.shape hm hr]
  · unfold samplesAt
    rw [Array.size_extract, h.size]
    omega

/-- A response that is there is a row of full length. -/
theorem Shaped.response_row (h : m.Shaped receivers points) {measurement receiver : Nat} {response : Tensor α}
    (hresponse : m.response measurement receiver = .ok response) :
    response = Tensor.row response.data ∧ response.data.size = points := by
  obtain ⟨hm, hr⟩ := Tensor.lt_of_part_natCast h.shape hresponse
  obtain ⟨he, hsize⟩ := h.response_eq hm hr
  rw [he] at hresponse
  cases hresponse
  exact ⟨by rw [Tensor.row, hsize], hsize⟩

/-- Whether there is a delay is known for every measurement and receiver. -/
theorem Shaped.delay_eq [Scalar α] (h : m.Shaped receivers points) {measurement receiver : Nat}
    (hm : measurement < m.positions.length) (hr : receiver < receivers) :
    ∃ delay, m.delay measurement receiver = .ok delay ∧
      (delay.map fun t => t.data.getD 0 0.0) = m.delayAt receivers measurement receiver := by
  have hd := h.delays
  unfold delay delay.given delayAt
  cases hk : m.delayKind with
  | absent => exact ⟨none, rfl, rfl⟩
  | perReceiver =>
    rw [hk] at hd
    obtain ⟨t, ht, hshape, hsize⟩ := hd
    have hpart := Tensor.part_natCast_two hshape Nat.zero_lt_one hr
    rw [Nat.cast_zero, Nat.zero_mul, Nat.zero_add] at hpart
    simp only [ht, hpart]
    exact ⟨_, rfl, some_getD_extract (by omega)⟩
  | perMeasurement =>
    rw [hk] at hd
    obtain ⟨t, ht, hshape, hsize⟩ := hd
    simp only [ht, Tensor.part_natCast_two hshape hm hr]
    exact ⟨_, rfl, some_getD_extract (by rw [hsize]; exact place_lt hm hr)⟩

theorem Shaped.measuredDelay_eq [Scalar α] (h : m.Shaped receivers points) {measurement receiver : Nat}
    (hm : measurement < m.positions.length) (hr : receiver < receivers) :
    m.measuredDelay measurement receiver = m.delayAt receivers measurement receiver := by
  obtain ⟨delay, hdelay, hvalue⟩ := h.delay_eq hm hr
  unfold measuredDelay
  rw [hdelay, ← hvalue]

end Shaped

/-- Measurements with two receivers at two points of the horizon and at the pole above. -/
def upperHalf : MeasurementSet ℚ where
  positions := [⟨1, 0, 0⟩, ⟨-1, 0, 0⟩, ⟨0, 0, 1⟩]
  responses := ⟨[3, 2, 2], #[1, 0, 2, 1, 0, 3, 5, 5, 1, 2, 3, 4]⟩
  sampleRate := 48000
  delays := some ⟨[3, 2], #[1, 2, 3, 4, 5, 6]⟩
  delayKind := .perMeasurement
  emitters := 1

theorem upperHalf_wellShaped : upperHalf.WellShaped 2 2 := ⟨⟨rfl, rfl, _, rfl, rfl, rfl⟩, .inr rfl⟩

end MeasurementSet

end HrirAtlas
