import HrirAtlas.Session
import HrirAtlas.Signal.Resampler

/-
Onsets. The onset of a response is the time of its largest magnitude, found at ten times the sample
rate; it is added to the delay of the slot. One row of samples serves all responses in turn and is
written over as a whole each time.
-/

namespace HrirAtlas.Onset

variable {α : Type} [Signal α]

/-- How much finer than the samples onsets are found. -/
def multiple : Nat := 10

/-- The place of the first greatest value after `best`, which was found at `place`; a value that is
no number beats all others. -/
def peakAfter (best : α) (place next : Nat) : List α → Nat
  | [] => place
  | value :: rest =>
    if best ≤ best ∧ ¬ value ≤ best then peakAfter value next (next + 1) rest
    else peakAfter best place (next + 1) rest

/-- The place of the first greatest value. -/
def peak : List α → Except ShapeFault Nat
  | [] => .error .noSamples
  | first :: rest => .ok (peakAfter first 0 1 rest)

/-- The finer rate, as a parameter. -/
def fineRate : Number α → Number α
  | .int n => .int (multiple * n)
  | .flag on => .int (multiple * on.toNat)
  | .real x => .real (Scalar.ofInt multiple * x)

/-- The onset of a response in seconds, and the row of samples used to find it. -/
def ofResponse (r : Resampler α) (rate : Number α) (fine response : Array α) :
    Except (Fault α) (α × Array α) := do
  let fine := r.process response fine
  let place ← (peak (fine.toList.map Scalar.abs)).mapError .shape
  let seconds ← (Scalar.divide (Scalar.ofInt place) (fineRate rate).toScalar).mapError .arithmetic
  return (seconds, fine)

/-- Adds the onset of a slot's response to its delay for a channel. -/
def addTo (r : Resampler α) (fine : Array α) (slot : Slot α) (channel : Nat) : Stage α (Array α) := do
  Stage.tick
  let d ← Stage.data
  let content := d.contentOf slot
  match content.delays[channel]? with
  | none => Stage.fail (.shape (.axisIndex channel 0 content.delays.length))
  | some delay =>
    let ref ← Stage.ofShape (d.heldView slot channel)
    let row := d.row ref
    let (seconds, fine) ← Stage.ofExcept
      (ofResponse r d.irRate fine (row.extract 0 (clampIndex row.size d.irPoints)))
    Stage.setData (d.setContent slot.content
      { content with delays := content.delays.set channel (delay + seconds) })
    return fine

/-- Adds the onsets of a slot's responses to its delays. -/
def addToSlot (r : Resampler α) (channels : Nat) (fine : Array α) (slot : Slot α) : Stage α (Array α) :=
  (List.range channels).foldlM (fun fine channel => addTo r fine slot channel) fine

/-- Adds the onsets of all measured slots to their delays. -/
def addAll : Stage α Unit := do
  let d ← Stage.data
  let length := multiple * d.irPoints
  Stage.ofShape (checkSize [length])
  let r ← Stage.ofExcept (Resampler.set (.number d.irRate) (.number (fineRate d.irRate)))
  Stage.reportAll [r.entry]
  discard (d.measuredSlots.foldlM (addToSlot r d.channels) (Array.replicate length.toNat 0.0))

end HrirAtlas.Onset
