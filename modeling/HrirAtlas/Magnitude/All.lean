import HrirAtlas.Magnitude.Pool
import HrirAtlas.Session

/-
The magnitude stage of an import: the responses of all measured slots are the work of a pool.
-/

namespace HrirAtlas.Magnitude

variable {α : Type} [Signal α]

/-- The row of the buffer that a slot views for a channel, if it views one. -/
def workOf (d : DataSet α) (buffer : Buffer α) (slot : Slot α) (channel : Nat) :
    Except ShapeFault (Option Nat) :=
  match (d.contentOf slot).views[channel]? with
  | none => .error .listIndex
  | some view => .ok (view.map buffer.place)

/-- The work for all measured slots and channels, in storage order. -/
def workList (d : DataSet α) (buffer : Buffer α) : Except ShapeFault (List (Option Nat)) :=
  d.measuredSlots.flatMapM fun slot => (List.range d.channels).mapM (workOf d buffer slot)

/-- The number of workers that a setting asks for: at least one, and a whole number. Null does not
bound the size of the pool, but no workers can be counted out from it. -/
def workerCount (threads : Setting α) : Except (Fault α) Nat :=
  match threads with
  | .number n =>
    if n.less (.int 1) then .error (.shape .noWorkers)
    else match n with
      | .real _ => .error (.setting (.noCount .real))
      | .int count => .ok count.toNat
      | .flag on => .ok on.toNat
  | .null => .error (.setting (.noCount .null))
  | other => .error (.setting (.incomparable "<" other.kind .int))

/-- The points of a transform, which must be a whole number. -/
def transformSize (fftSize : Number α) : Except SettingFault Int :=
  match fftSize with
  | .int n => .ok n
  | other => .error (.noSize other.shown)

/-- The line that the stage prints when it ends. -/
def progressLabel : String := "Calculating HRIR magnitudes"

/-- Replaces the responses of all measured slots by their magnitudes. -/
def all (threads : Setting α) : Stage α Unit := do
  let d ← Stage.data
  let buffer := d.buffer.getD ⟨0, 0, 0, #[]⟩
  let work ← Stage.ofShape (workList d buffer)
  let count ← Stage.ofExcept (workerCount threads)
  match transformSize d.fftSize with
  | .error cause =>
    Stage.print (progressLine progressLabel 0 work.length)
    Stage.fail (.setting cause)
  | .ok fftSize =>
    let pool : Pool α := { rows := buffer.rows, work, fftSize, points := d.irPoints }
    let (pool, cause) := Pool.runWorkers count pool
    Stage.setData { d with buffer := d.buffer.map fun b => { b with rows := pool.rows } }
    Stage.print (progressLine progressLabel pool.done.value work.length)
    match cause with
    | some cause => Stage.fail (.shape cause)
    | none => return ()

end HrirAtlas.Magnitude
