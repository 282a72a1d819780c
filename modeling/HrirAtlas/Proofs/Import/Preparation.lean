import HrirAtlas.Proofs.Grid.Agreement
import HrirAtlas.Proofs.Grid.Indices
import HrirAtlas.Proofs.Grid.Lookup
import HrirAtlas.Proofs.Import.Faults
import HrirAtlas.Proofs.Layout.Answers
import HrirAtlas.Proofs.Layout.Usable

/-
Preparing the grid of a data set. Detection answers with layouts of three rows or more, or with a fault
of layouts; a layout with more rows than one has a step between them, so every field is allocated, and
only the buffer can be too large.
-/

namespace HrirAtlas.Grid

theorem survey_of_fault {α : Type} [Scalar α] {positions : List (Spherical α)} {fault : Fault α}
    (h : (Layout.detect positions).2 = .error fault) (s : Session α) :
    ∃ t, survey positions s = .error fault t ∧ t.data = s.data := by
  unfold survey
  rw [Stage.report_bind]
  simp only [h]
  exact ⟨_, rfl, rfl⟩

variable {positions : List (Spherical ℚ)} {s : Session ℚ}

/-- Directions are prepared, or the fault tells what does not fit a grid and the data set stays as it
was: no division by zero, no index beyond a list. Only the memory for the buffer is taken for granted. -/
theorem prepare_outcome (hproper : ∀ p ∈ positions, Proper p) (hsize : 0 ≤ s.data.irSize)
    (hmemory : ∀ layouts, (Layout.detect positions).2 = .ok layouts → ∀ cause,
      checkSize [s.data.channels, slotCount layouts, s.data.irSize] = .error cause → cause.isLack = false) :
    (∃ layouts t, (Layout.detect positions).2 = .ok layouts ∧ prepare positions s = .ok () t ∧ Allocated t.data) ∨
      ∃ cause t, (Layout.detect positions).2 = .error (.layout cause) ∧
        prepare positions s = .error (.layout cause) t ∧ t.data = s.data := by
  cases hdetect : (Layout.detect positions).2 with
  | error fault =>
    obtain ⟨cause, rfl⟩ := Layout.misfit_of_detect (fun p hp => (hproper p hp).azimuth)
      (fun p hp => (hproper p hp).elevation) hdetect
    obtain ⟨t, ht, hdata⟩ := survey_of_fault hdetect s
    exact .inr ⟨cause, t, rfl, Stage.bind_of_error ht, hdata⟩
  | ok layouts =>
    obtain ⟨u, hsurvey, hdata⟩ := survey_of_detect hdetect s
    have hrows : ∀ l ∈ layouts, l.azCounts.length ≠ 1 := fun l hl => by
      obtain ⟨rows, lowest, highest, step, intervals, measured, hmade, -⟩ := Layout.madeOf_of_detect hdetect hl
      have hlength := hmade.length_eq
      have hminRows := hmade.size.1
      unfold Layout.minRows at hminRows
      omega
    have hbuffer : checkSize [u.data.channels, slotCount layouts, u.data.irSize] = .ok () := by
      rw [hdata]
      cases hcheck : checkSize [(s.data.channels : Int), slotCount layouts, s.data.irSize] with
      | ok => rfl
      | error cause =>
        have hlack := isLack_of_checkSize (fun n hn => ?_) hcheck
        · rw [hmemory layouts hdetect cause hcheck] at hlack
          cases hlack
        · simp only [List.mem_cons, List.not_mem_nil, or_false] at hn
          rcases hn with rfl | rfl | rfl
          · exact Int.natCast_nonneg _
          · exact Int.natCast_nonneg _
          · exact hsize
    obtain ⟨t, hallocate⟩ := allocate_answers Exact.keepsNonzero hrows hbuffer
    refine .inl ⟨layouts, t, rfl, ?_, (allocate_ok hallocate).1⟩
    exact (Stage.bind_of_ok hsurvey).trans hallocate

/-- A dome in a fresh data set. -/
theorem prepare_outcome_dome : (∀ p ∈ Layout.domePositions, Proper p) ∧
    (0 : Int) ≤ (DataSet.fresh : DataSet ℚ).irSize ∧
    ∃ t, prepare Layout.domePositions { data := DataSet.fresh } = .ok () t ∧ Allocated t.data := by
  have hproper : ∀ p ∈ Layout.domePositions, Proper p := by decide +kernel
  refine ⟨hproper, by decide, ?_⟩
  have hmemory : ∀ layouts, (Layout.detect Layout.domePositions).2 = .ok layouts → ∀ cause,
      checkSize [((DataSet.fresh : DataSet ℚ).channels : Int), slotCount layouts, (DataSet.fresh : DataSet ℚ).irSize] =
        .error cause → cause.isLack = false := by
    intro layouts hlayouts cause hcause
    rw [Layout.detect_domePositions] at hlayouts
    cases hlayouts
    cases hcause
  rcases prepare_outcome (s := { data := DataSet.fresh }) hproper (by decide) hmemory with
    ⟨layouts, t, -, hprepare, hallocated⟩ | ⟨cause, t, hfault, -⟩
  · exact ⟨t, hprepare, hallocated⟩
  · cases Layout.detect_domePositions.symm.trans hfault

end HrirAtlas.Grid
