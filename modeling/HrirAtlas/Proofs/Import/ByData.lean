import HrirAtlas.Import
import HrirAtlas.Proofs.Load.Responses

/-
The stages of an import that only look at the data set. Every stage around the loading of measurements
is one, since reports and counts are written and never read back.
-/

namespace HrirAtlas

variable {α : Type} [Signal α]

open Stage

/-! ## The grid -/

theorem Grid.byData_allocate (layouts : List (Layout α)) : ByData (Grid.allocate layouts) := by
  unfold Grid.allocate
  refine byData_data.bind fun d => ?_
  obtain ⟨fields, count, cause, hfields⟩ : ∃ fields count cause, newFields 0 layouts = (fields, count, cause) :=
    ⟨_, _, _, rfl⟩
  simp only [hfields]
  refine (byData_setData _).bind fun _ => ?_
  cases cause with
  | some cause => exact byData_fail _
  | none =>
    exact (byData_setData _).bind fun _ => (byData_ofExcept _).bind fun _ => (byData_setData _).bind fun _ =>
      byData_report _ _ _

/-! ## Before and after the measurements -/

theorem Load.byData_converter? (rate : Number α) (target : Setting α) : ByData (Load.converter? rate target) := by
  unfold Load.converter?
  split
  · exact (byData_ofExcept _).bind fun r => (byData_reportAll _).bind fun _ => byData_pure _
  · exact byData_pure _

theorem Load.byData_retime (target : Setting α) : ByData (Load.retime target) := by
  unfold Load.retime
  refine byData_data.bind fun d => ?_
  cases target with
  | number rate =>
    exact (byData_setData _).bind fun _ => (byData_ofExcept _).bind fun _ => byData_setData _
  | _ => exact byData_fail _

theorem Load.byData_finish (target : Setting α) (r : Option (Resampler α)) : ByData (Load.finish target r) := by
  unfold Load.finish
  split
  · exact byData_retime target
  · exact byData_pure _

/-! ## The stages that do not know the measurements -/

theorem Coverage.byData_check : ByData (Coverage.check : Stage α Unit) := by
  unfold Coverage.check
  refine byData_data.bind fun d => ?_
  obtain ⟨fields, entries, cause, hcover⟩ : ∃ fields entries cause, coverFields d 0 d.fields = (fields, entries, cause) :=
    ⟨_, _, _, rfl⟩
  simp only [hcover]
  refine (byData_setData _).bind fun _ => (byData_reportAll _).bind fun _ => ?_
  cases cause with
  | none => exact byData_pure _
  | some cause => exact byData_fail _

theorem Onset.byData_addTo (r : Resampler α) (fine : Array α) (slot : Slot α) (channel : Nat) :
    ByData (Onset.addTo r fine slot channel) := by
  unfold Onset.addTo
  refine byData_tick.bind fun _ => byData_data.bind fun d => ?_
  dsimp only
  split
  · exact byData_fail _
  · exact (byData_ofExcept _).bind fun ref => (byData_ofExcept _).bind fun (seconds, fine) =>
      (byData_setData _).bind fun _ => byData_pure _

theorem Onset.byData_addAll : ByData (Onset.addAll : Stage α Unit) := by
  unfold Onset.addAll
  refine byData_data.bind fun d => (byData_ofExcept _).bind fun _ => (byData_ofExcept _).bind fun r =>
    (byData_reportAll _).bind fun _ => (ByData.foldlM (fun fine slot => ?_) _ _).discard
  exact ByData.foldlM (fun fine channel => byData_addTo r fine slot channel) _ _

theorem Magnitude.byData_all (threads : Setting α) : ByData (Magnitude.all threads) := by
  unfold Magnitude.all
  refine byData_data.bind fun d => (byData_ofExcept _).bind fun work => (byData_ofExcept _).bind fun count => ?_
  cases transformSize d.fftSize with
  | error cause => exact (byData_print _).bind fun _ => byData_fail _
  | ok fftSize =>
    dsimp only
    generalize (Pool.runWorkers count _ : Pool α × _) = outcome
    obtain ⟨pool, cause⟩ := outcome
    refine (byData_setData _).bind fun _ => (byData_print _).bind fun _ => ?_
    cases cause with
    | none => exact byData_pure _
    | some cause => exact byData_fail _

end HrirAtlas
