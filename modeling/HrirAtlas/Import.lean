import HrirAtlas.Coverage
import HrirAtlas.Grid.Allocate
import HrirAtlas.Load
import HrirAtlas.Magnitude.All
import HrirAtlas.Onset

/-
The import of a set of measurements: the grid is allocated for their layout, their responses and
delays are loaded into it, its coverage is checked, onsets are added to the delays, and at last the
responses are replaced by their magnitudes. Each stage needs the ones before it to have ended well.
-/

namespace HrirAtlas

/-- What an import is asked for. The values stand as they were given; each stage takes those that
it can use. -/
structure ImportOptions (α : Type) where
  threads : Setting α := .int 1
  fftSize : Setting α := .int 0
  truncSize : Setting α := .int 0
  outRate : Setting α := .int 0
  channelMode : Setting α := .text "stereo"

namespace Import

variable {α : Type} [Signal α]

/-- Whether a data set gets a channel for each ear: only from two receivers, and only if that is
asked for. -/
def isStereo (receivers : Nat) (mode : Setting α) : Bool :=
  receivers == 2 && match mode with
    | .text name => name == "stereo"
    | _ => false

/-- The size of a transform that has room for a response. -/
def checkFftSize (points : Nat) (fftSize : Setting α) : Except (Fault α) (Number α) := do
  let size ← (fftSize.comparedWithInt ">").mapError .setting
  if size.less (.int points) then throw (.format (.tooManyPoints points size))
  return size

/-- A response must not be shorter than the least length asked for. -/
def checkTruncSize (points : Nat) (truncSize : Setting α) : Except (Fault α) Unit := do
  let size ← (truncSize.comparedWithInt "<").mapError .setting
  if Number.less (.int points) size then throw (.format (.tooFewPoints points size))

/-- The length of a row that has room for a response and for the magnitudes of its spectrum. -/
def rowSize (points : Nat) (fftSize : Number α) : Number α :=
  let bins := fftSize.halfAndOne
  if bins.less (.int points) then .int points else bins

/-- An empty data set for the measurements, without its grid. -/
def start (m : MeasurementSet α) (o : ImportOptions α) : Except (Fault α) (DataSet α × Number α) := do
  let receivers ← m.receivers.mapError .shape
  let points ← m.points.mapError .shape
  let fftSize ← checkFftSize points o.fftSize
  checkTruncSize points o.truncSize
  let rate ← (Scalar.round m.sampleRate).mapError .arithmetic
  let d : DataSet α := { DataSet.fresh with
    stereo := isStereo receivers o.channelMode
    irRate := .int rate
    irPoints := points
    fftSize }
  return (d, rowSize points fftSize)

/-- The grid for the measurements, with rows of the given length. -/
def prepare (m : MeasurementSet α) : Number α → Stage α Unit
  | .int size => do
    Stage.setData { ← Stage.data with irSize := size }
    Grid.prepare (m.positions.map Cartesian.toSpherical)
  | other => do
    discard (Grid.survey (m.positions.map Cartesian.toSpherical))
    Stage.fail (.setting (.noCount (Setting.number other).kind))

/-- The data set of the session after all stages. -/
def run (m : MeasurementSet α) (o : ImportOptions α) : Stage α Unit := do
  let (d, size) ← Stage.ofExcept (start m o)
  Stage.setData d
  prepare m size
  Stage.withProgress "Loading HRIRs" (← Stage.ofShape m.measurements) (Load.responses m o.outRate)
  Coverage.check
  let d ← Stage.data
  Stage.withProgress "Calculating HRIR onsets" (d.measuredSlots.length * d.channels) Onset.addAll
  Magnitude.all o.threads

end Import

end HrirAtlas
