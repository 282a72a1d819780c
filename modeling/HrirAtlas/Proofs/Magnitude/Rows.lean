import HrirAtlas.Proofs.Magnitude.Failures

/-
The rows that a pool touches. Whatever its work is, along every schedule a row is rewritten only if it
is work, and by the magnitudes of what it holds. The work of the magnitude stage are rows that slots
view, so the stage touches no others.
-/

namespace HrirAtlas.Magnitude

open Relation

variable {α : Type}

namespace Pool

variable [Signal α]

/-- A row that is work gives way to the magnitudes of what it holds. -/
inductive Reworks (points : Int) (work : List (Option Nat)) : Array (Array α) → Array (Array α) → Prop
  | row {rows : Array (Array α)} {place : Nat} {scratch : Array (Complex α)} {samples : Array α}
    (hwork : some place ∈ work) (hsamples : (replaceHead points scratch (rows.getD place #[])).2 = .ok samples) :
    Reworks points work rows (rows.setIfInBounds place samples)

theorem reworks_of_compute {p : Pool α} {scratch scratch' : Array (Complex α)} {index : Int} {rows : Array (Array α)}
    (h : p.compute scratch index = (scratch', .ok rows)) : Reworks p.points p.work p.rows rows := by
  unfold compute at h
  split at h
  · cases h
  · cases h
  · rename_i row hrow
    simp only [Prod.mk.injEq] at h
    obtain ⟨samples, hsamples, rfl⟩ := except_map_ok h.2
    obtain ⟨place, -, hplace⟩ := Option.bind_eq_some_iff.1 hrow
    exact .row (List.mem_of_getElem? hplace) hsamples

theorem reworks_step (p : Pool α) (w : Worker α) : (p.step w).1.work = p.work ∧ (p.step w).1.points = p.points ∧
    ReflTransGen (Reworks p.points p.work) p.rows (p.step w).1.rows := by
  have hmoves := moves_step p w
  generalize p.step w = after at hmoves
  cases hmoves with
  | finish hw hrows => exact ⟨rfl, rfl, .single (reworks_of_compute hrows)⟩
  | start | lack | read | past | won | lost | fault | count | rest => exact ⟨rfl, rfl, .refl⟩

/-- Along every schedule only rows that are work are rewritten. -/
theorem reworks_interleave (schedule : List Nat) {p : Pool α} {workers : List (Worker α)} :
    ReflTransGen (Reworks p.points p.work) p.rows (p.interleave workers schedule).1.rows := by
  induction schedule generalizing p workers with
  | nil => exact .refl
  | cons turn rest ih =>
    cases hw : workers[turn]? with
    | none => rw [interleave_cons_none rest hw]; exact ih
    | some w =>
      obtain ⟨hwork, hpoints, hstep⟩ := reworks_step p w
      have hrest : ReflTransGen (Reworks (p.step w).1.points (p.step w).1.work) (p.step w).1.rows
          ((p.step w).1.interleave (workers.set turn (p.step w).2) rest).1.rows := ih
      rw [hwork, hpoints] at hrest
      rw [interleave_cons_some rest hw]
      exact hstep.trans hrest

theorem reworks_runWorkers (count : Nat) (p : Pool α) :
    ReflTransGen (Reworks p.points p.work) p.rows (runWorkers count p).1.rows := by
  obtain ⟨schedule, after, hrun, -⟩ := runWorkers_eq_interleave count p []
  have hrows : ReflTransGen (Reworks p.points p.work) p.rows
      (p.interleave ([] ++ List.replicate count ({} : Worker α)) schedule).1.rows := reworks_interleave schedule
  rwa [hrun] at hrows

end Pool

/-- A piece of work is the row that a slot views for a channel. -/
theorem heldView_of_mem_workList {d : DataSet α} {buffer : Buffer α} {work : List (Option Nat)} {place : Nat}
    (hwork : workList d buffer = .ok work) (hplace : some place ∈ work) :
    ∃ slot ∈ d.slots, ∃ channel ref, d.heldView slot channel = .ok ref ∧ place = buffer.place ref := by
  obtain ⟨slot, hslot, row, hrow, hplace⟩ := except_mem_flatMapM hwork hplace
  obtain ⟨channel, -, hchannel⟩ := except_mem_mapM hrow hplace
  have hslots : slot ∈ d.slots := by
    obtain ⟨f, hf, hslot⟩ := List.mem_flatMap.1 hslot
    refine List.mem_flatMap.2 ⟨f, hf, ?_⟩
    exact ((List.drop_sublist _ _).flatMap _).subset hslot
  refine ⟨slot, hslots, channel, ?_⟩
  unfold workOf at hchannel
  unfold DataSet.heldView
  split at hchannel
  · cases hchannel
  · rename_i view hview
    cases view with
    | none => cases hchannel
    | some ref =>
      cases hchannel
      rw [hview]
      exact ⟨ref, rfl, rfl⟩

end HrirAtlas.Magnitude
