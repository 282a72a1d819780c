import HrirAtlas.Counter
import HrirAtlas.Magnitude

/-
A pool of workers that replaces responses by their magnitudes. The work is a list of rows; a shared
cursor tells the next one to be claimed, and a worker claims it by a compare-exchange. One atomic
step of one worker is `step`; a schedule is the list of the workers that take their turns. What is
run is the schedule in which each worker works alone until it ends.
-/

namespace HrirAtlas.Magnitude

/-- Where a worker stands. -/
inductive Phase where
  /-- Making the scratch row. -/
  | starting
  /-- Reading the cursor. -/
  | reading
  /-- Claiming the work at an index. -/
  | claiming (index : Int)
  /-- Computing the work at an index. -/
  | computing (index : Int)
  /-- Counting finished work. -/
  | counting
  | returned
  | failed (cause : ShapeFault)
deriving Repr, DecidableEq

namespace Phase

/-- Whether the worker takes no more steps. -/
def ended : Phase → Bool
  | returned | failed _ => true
  | _ => false

end Phase

/-- A worker with the scratch row that it reuses. -/
structure Worker (α : Type) where
  phase : Phase := .starting
  scratch : Array (Complex α) := #[]
deriving Repr, DecidableEq

/-- The shared state: rows of samples, the rows that are work (or nothing, where there is no row),
the cursor, and the count of finished work. -/
structure Pool (α : Type) where
  rows : Array (Array α)
  work : List (Option Nat)
  cursor : Counter := {}
  done : Counter := {}
  /-- Points of the transform. -/
  fftSize : Int
  /-- Samples of a response that are in use. -/
  points : Int
deriving Repr, DecidableEq

namespace Pool

variable {α : Type} [Signal α]

/-- The work at an index, done with a scratch row: the scratch row after it, and the rows. -/
def compute (p : Pool α) (scratch : Array (Complex α)) (index : Int) :
    Array (Complex α) × Except ShapeFault (Array (Array α)) :=
  match (wrapIndex? p.work.length index).bind (p.work[·]?) with
  | none => (scratch, .error .listIndex)
  | some none => (scratch, .error .absent)
  | some (some row) =>
    let (scratch, samples) := replaceHead p.points scratch (p.rows.getD row #[])
    (scratch, samples.map fun samples => p.rows.setIfInBounds row samples)

/-- One atomic step of a worker. -/
def step (p : Pool α) (w : Worker α) : Pool α × Worker α :=
  match w.phase with
  | .starting =>
    match checkSize [p.fftSize] with
    | .error cause => (p, { w with phase := .failed cause })
    | .ok () => (p, ⟨.reading, Array.replicate p.fftSize.toNat (ofReal 0.0)⟩)
  | .reading => (p, { w with phase := .claiming p.cursor.load })
  | .claiming index =>
    if p.work.length ≤ index then (p, { w with phase := .returned })
    else
      let (claimed, found, cursor) := p.cursor.compareExchange index (index + 1)
      ({ p with cursor }, { w with phase := if claimed then .computing index else .claiming found })
  | .computing index =>
    match p.compute w.scratch index with
    | (scratch, .error cause) => (p, ⟨.failed cause, scratch⟩)
    | (scratch, .ok rows) => ({ p with rows }, ⟨.counting, scratch⟩)
  | .counting => ({ p with done := (p.done.fetchAdd 1).2 }, { w with phase := .reading })
  | .returned | .failed _ => (p, w)

/-- The worker's steps one after another, as many as the fuel allows. -/
def alone : Nat → Pool α → Worker α → Pool α × Worker α
  | 0, p, w => (p, w)
  | fuel + 1, p, w =>
    if w.phase.ended then (p, w)
    else
      let (p, w) := step p w
      alone fuel p w

/-- Steps that one worker alone needs at most: four for each piece of work, and three at the ends. -/
def stepBound (p : Pool α) : Nat := 4 * ((p.work.length : Int) - p.cursor.value).toNat + 3

/-- A new worker's whole run alone. -/
def runWorker (p : Pool α) : Pool α × Worker α := alone p.stepBound p {}

/-- The runs of `count` workers one after another, and why the first of them failed that did. -/
def runWorkers : Nat → Pool α → Pool α × Option ShapeFault
  | 0, p => (p, none)
  | count + 1, p =>
    let (p, w) := runWorker p
    let (last, later) := runWorkers count p
    (last, match w.phase with | .failed cause => some cause | _ => later)

/-! ## Interleavings -/

/-- The workers after the turns of a schedule; a turn of a worker that is not there changes
nothing. -/
def interleave (p : Pool α) (workers : List (Worker α)) : List Nat → Pool α × List (Worker α)
  | [] => (p, workers)
  | turn :: rest =>
    match workers[turn]? with
    | none => interleave p workers rest
    | some w =>
      let (p, w) := step p w
      interleave p (workers.set turn w) rest

end Pool

end HrirAtlas.Magnitude
