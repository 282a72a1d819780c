import HrirAtlas.Grid.Locate
import HrirAtlas.Measurement
import HrirAtlas.Session
import HrirAtlas.Signal.Resampler

/-
Loading measurements into the grid. Each measurement whose position has a slot fills it: its
responses are copied, or converted to another rate, into the rows of the buffer that belong to the
slot, and its delays become seconds. A slot can be filled once. When all are placed, the rate and
the sample count of the data set follow the conversion.
-/

namespace HrirAtlas.Load

variable {α : Type} [Signal α]

/-- The conversion that a target rate asks for: none when no rate is given, or the present one. -/
def isConversion (irRate : Number α) (target : Setting α) : Bool :=
  target.isGiven && match target with
    | .number n => !n.same irRate
    | _ => true

/-- The converter for a target rate, where one is needed. -/
def converter? (irRate : Number α) (target : Setting α) : Stage α (Option (Resampler α)) := do
  if isConversion irRate target then
    let r ← Stage.ofExcept (Resampler.set (.number irRate) target)
    Stage.reportAll [r.entry]
    return some r
  else return none

/-! ## One measurement -/

/-- Makes a slot view its row of the buffer for a channel. -/
def assignView (slot : Slot α) (channel : Nat) : Stage α RowRef := do
  let d ← Stage.data
  let ref ← Stage.ofShape (d.view channel slot.index)
  let content := d.contentOf slot
  if channel < content.views.length then
    Stage.setData (d.setContent slot.content { content with views := content.views.set channel (some ref) })
    return ref
  else Stage.fail (.shape .listTarget)

/-- Stores the response of a measurement at a receiver in the row of a slot. -/
def storeResponse (m : MeasurementSet α) (r : Option (Resampler α)) (measurement : Nat) (slot : Slot α)
    (channel : Nat) : Stage α Unit := do
  let ref ← assignView slot channel
  let response ← Stage.ofShape (m.response measurement channel)
  let points ← Stage.ofShape m.points
  let d ← Stage.data
  match r with
  | none => Stage.setData (d.setRow ref (← Stage.ofShape (Signal.writeHead (d.row ref) points response)))
  | some r =>
    let signal ← Stage.ofShape (response.spread points)
    Stage.setData (d.setRow ref (r.process signal (d.row ref)))

/-- Stores the delay of a measurement at a receiver, in seconds. -/
def storeDelay (m : MeasurementSet α) (measurement : Nat) (slot : Slot α) (channel : Nat) : Stage α Unit := do
  match ← Stage.ofShape (m.delay measurement channel) with
  | none => return ()
  | some delay =>
    let d ← Stage.data
    let content := d.contentOf slot
    let seconds := delay.data.getD 0 0.0 / d.irRate.toScalar
    if channel < content.delays.length then
      Stage.setData (d.setContent slot.content { content with delays := content.delays.set channel seconds })
    else Stage.fail (.shape (.axisIndex channel 0 content.delays.length))

/-- Fills a slot with a measurement. -/
def fill (m : MeasurementSet α) (r : Option (Resampler α)) (measurement : Nat) (slot : Slot α) :
    Stage α Unit := do
  let channels := List.range (← Stage.data).channels
  channels.forM (storeResponse m r measurement slot)
  channels.forM (storeDelay m measurement slot)

/-- Places a measurement at its position; one without a slot is passed over. -/
def place (m : MeasurementSet α) (positions : List (Spherical α)) (r : Option (Resampler α))
    (measurement : Nat) : Stage α Unit := do
  Stage.tick
  match positions[measurement]? with
  | none => Stage.fail (.shape (.axisIndex measurement 0 positions.length))
  | some position =>
    let d ← Stage.data
    match ← Stage.ofArithmetic (Grid.resolve? d.fields position) with
    | none => return ()
    | some slot =>
      if d.populated slot then
        Stage.fail (.duplicate (Grid.clockwise position) position.elevation position.distance)
      fill m r measurement slot

/-! ## All measurements -/

/-- Gives the data set its rate after conversion, and the count of samples that lasts as long, as
far as a row can hold it. -/
def retime (target : Setting α) : Stage α Unit := do
  let d ← Stage.data
  match target with
  | .number rate =>
    Stage.setData { d with irRate := rate }
    let scale := rate.toScalar / d.irRate.toScalar
    let points ← Stage.ofArithmetic (Scalar.ceil (Scalar.ofInt d.irPoints * scale))
    Stage.setData { d with irRate := rate, irPoints := min points d.irSize }
  | other => Stage.fail (.setting (.operands "/" other.kind (Setting.number d.irRate).kind))

/-- Loads all measurements, converted to a target rate if one is given. -/
def responses (m : MeasurementSet α) (target : Setting α) : Stage α Unit := do
  let irRate := (← Stage.data).irRate
  let r ← converter? irRate target
  if r.isSome then discard (Stage.ofShape m.points)
  let positions := m.positions.map Cartesian.toSpherical
  let count ← Stage.ofShape m.measurements
  (List.range count).forM (place m positions r)
  if r.isSome then retime target

end HrirAtlas.Load
