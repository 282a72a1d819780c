import HrirAtlas.Proofs.Magnitude.Schedule

/-
The moves of a worker, for any work: rows may be work more than once, or not be there at all, and
the cursor may stand anywhere. A step of a worker is one of ten moves, and what a record of a schedule
has of one worker is told apart.
-/

namespace HrirAtlas.Magnitude

variable {α : Type} [Signal α]

namespace Pool

/-! ## Moves -/

/-- The kinds of steps, with the pool and the worker after each. -/
inductive Moves (p : Pool α) (w : Worker α) : Pool α × Worker α → Prop
  | start (hw : w.phase = .starting) (hsize : checkSize [p.fftSize] = .ok ()) :
    Moves p w (p, ⟨.reading, p.freshScratch⟩)
  /-- There is no scratch row to be had. -/
  | lack {cause : ShapeFault} (hw : w.phase = .starting) (hsize : checkSize [p.fftSize] = .error cause) :
    Moves p w (p, { w with phase := .failed cause })
  | read (hw : w.phase = .reading) : Moves p w (p, { w with phase := .claiming p.cursor.value })
  | past {k : Int} (hw : w.phase = .claiming k) (hk : p.work.length ≤ k) :
    Moves p w (p, { w with phase := .returned })
  | won {k : Int} (hw : w.phase = .claiming k) (hk : k < p.work.length) (hc : p.cursor.value = k) :
    Moves p w ({ p with cursor := ⟨k + 1⟩ }, { w with phase := .computing k })
  | lost {k : Int} (hw : w.phase = .claiming k) (hk : k < p.work.length) (hc : p.cursor.value ≠ k) :
    Moves p w (p, { w with phase := .claiming p.cursor.value })
  | finish {k : Int} {scratch : Array (Complex α)} {rows : Array (Array α)} (hw : w.phase = .computing k)
    (hrows : p.compute w.scratch k = (scratch, .ok rows)) : Moves p w ({ p with rows }, ⟨.counting, scratch⟩)
  | fault {k : Int} {scratch : Array (Complex α)} {cause : ShapeFault} (hw : w.phase = .computing k)
    (hcause : p.compute w.scratch k = (scratch, .error cause)) : Moves p w (p, ⟨.failed cause, scratch⟩)
  | count (hw : w.phase = .counting) :
    Moves p w ({ p with done := ⟨p.done.value + 1⟩ }, { w with phase := .reading })
  | rest (hw : w.phase.ended = true) : Moves p w (p, w)

/-- Every step is a move. -/
theorem moves_step (p : Pool α) (w : Worker α) : Moves p w (p.step w) := by
  cases hw : w.phase with
  | starting =>
    cases hsize : checkSize [p.fftSize] with
    | error cause => rw [step_starting_error hsize hw]; exact .lack hw hsize
    | ok u => rw [step_starting hsize hw]; exact .start hw hsize
  | reading => rw [step_reading hw]; exact .read hw
  | counting => rw [step_counting hw]; exact .count hw
  | returned => rw [step_ended (by rw [hw]; rfl)]; exact .rest (by rw [hw]; rfl)
  | failed cause => rw [step_ended (by rw [hw]; rfl)]; exact .rest (by rw [hw]; rfl)
  | claiming k =>
    by_cases hk : (p.work.length : Int) ≤ k
    · rw [step_claiming_past hw hk]; exact .past hw hk
    · by_cases hc : p.cursor.value = k
      · rw [step_claiming_won hw hk hc]; exact .won hw (not_le.1 hk) hc
      · rw [step_claiming_lost hw hk hc]; exact .lost hw (not_le.1 hk) hc
  | computing k =>
    unfold step
    rw [hw]
    dsimp only
    rcases hcompute : p.compute w.scratch k with ⟨scratch, cause | rows⟩
    · exact .fault hw hcompute
    · exact .finish hw hcompute

/-! ## Records -/

section Record

variable {β : Type}

/-- What is seen of one worker alone. -/
def ofWorker (turn : Nat) (seen : List (Nat × β)) : List β :=
  seen.filterMap fun entry => if entry.1 = turn then some entry.2 else none

theorem ofWorker_append (turn : Nat) (seen later : List (Nat × β)) :
    ofWorker turn (seen ++ later) = ofWorker turn seen ++ ofWorker turn later :=
  List.filterMap_append

theorem ofWorker_own (turn : Nat) (entry : Option β) : ofWorker turn (entry.map (turn, ·)).toList = entry.toList := by
  cases entry <;> simp [ofWorker]

theorem ofWorker_other {turn other : Nat} (h : other ≠ turn) (entry : Option β) :
    ofWorker turn (entry.map (other, ·)).toList = [] := by
  cases entry <;> simp [ofWorker, h]

end Record

end Pool

end HrirAtlas.Magnitude
