import HrirAtlas.Layout.Detect
import HrirAtlas.Proofs.Stage

/-
The faults that detection can stop for, each traced to the step that it comes from. Most tell what does
not fit a grid; the only ones of shapes are indices beyond the list of azimuth counts, which is written
to row by row.
-/

namespace HrirAtlas.Layout

variable {α : Type}

/-- The fault tells what does not fit a grid. -/
def Misfit (fault : Fault α) : Prop := ∃ cause, fault = .layout cause

/-- If the fault is one of shapes, it is an index beyond the list of azimuth counts. -/
def OffCounts (fault : Fault α) : Prop := ∀ cause, fault = .shape cause → cause = .listTarget ∨ cause = .listIndex

/-- Where every fault that is passed on is such a fault, so is the one that arrives. -/
theorem offCounts_of_mapError {ε β : Type} {x : Except ε β} {f : ε → Fault α} {fault : Fault α}
    (hf : ∀ cause, OffCounts (f cause)) (h : x.mapError f = .error fault) : OffCounts fault := by
  obtain ⟨cause, -, rfl⟩ := except_mapError_error h
  exact hf cause

theorem Misfit.offCounts {fault : Fault α} (h : Misfit fault) : OffCounts fault := by
  obtain ⟨cause, rfl⟩ := h
  nofun

theorem offCounts_arithmetic (cause : ArithmeticFault) : OffCounts (.arithmetic cause : Fault α) := nofun

theorem writeCount_faults {counts : List Int} {index count : Int} {fault : Fault α}
    (h : writeCount counts index count = .error fault) : OffCounts fault := by
  unfold writeCount at h
  split at h
  · cases h
  · cases h
    rintro cause ⟨⟩
    exact .inl rfl

theorem mirrorCounts_faults {fault : Fault α} : ∀ {remaining row : Nat} {counts : List Int},
    mirrorCounts row remaining counts = .error fault → OffCounts fault
  | 0, _, _, h => by cases h
  | remaining + 1, row, counts, h => by
    unfold mirrorCounts at h
    split at h
    · cases h
      rintro cause ⟨⟩
      exact .inr rfl
    · rcases except_bind_error h with h | ⟨counts', -, h⟩
      · exact writeCount_faults h
      · exact mirrorCounts_faults h

theorem usableRows_faults {fault : Fault α} : ∀ {verdicts : List (RowVerdict α)},
    usableRows verdicts = .error fault → .faulty fault ∈ verdicts
  | [], h => by cases h
  | .usable elevation azimuths :: rest, h => by
    unfold usableRows at h
    exact List.mem_cons_of_mem _ (usableRows_faults (except_map_error h))
  | .stray .. :: rest, h => List.mem_cons_of_mem _ (usableRows_faults h)
  | .faulty cause :: rest, h => by
    cases h
    exact List.mem_cons_self

variable [Scalar α]

theorem rowIndex_faults {evLimit step elevation : α} {fault : Fault α}
    (h : rowIndex evLimit step elevation = .error fault) : OffCounts fault := by
  rcases except_bind_error h with h | ⟨ratio, -, h⟩
  · exact offCounts_of_mapError offCounts_arithmetic h
  · exact offCounts_of_mapError offCounts_arithmetic h

theorem writeRows_faults {evLimit step : α} {fault : Fault α} : ∀ {rows : List (α × Nat)} {counts : List Int},
    writeRows evLimit step rows counts = .error fault → OffCounts fault
  | [], _, h => by cases h
  | (elevation, azimuths) :: rows, counts, h => by
    rcases except_bind_error h with h | ⟨index, -, h⟩
    · exact rowIndex_faults h
    rcases except_bind_error h with h | ⟨counts', -, h⟩
    · exact writeCount_faults h
    · exact writeRows_faults h

/-- A derivation of a layout from usable rows, before any of them is written. -/
structure Underway (rows : List (α × Nat)) (highest step evLimit quotient : α) (intervals : Int) : Prop where
  above : ¬ highest ≤ 0.0
  several : ¬ rows.length < 2
  division : elevationStep? angleTolerance (rows.map Prod.fst) = .ok (some step)
  step_pos : ¬ step ≤ 0.0
  limit : evLimit = if highest > poleElevation then 90.0 else highest
  divided : Scalar.divide (2.0 * evLimit) step = .ok quotient
  count : Scalar.round quotient = .ok intervals
  size : ¬ intervals + 1 < minRows

/-- Where a derivation can stop for a fault that does not tell of a grid. -/
inductive Interrupted (rows : List (α × Nat)) (lowest highest : α) (fault : Fault α) : Prop where
  | division (above : ¬ highest ≤ 0.0) (several : ¬ rows.length < 2) (cause : ArithmeticFault)
    (h : elevationStep? angleTolerance (rows.map Prod.fst) = .error cause) (heq : fault = .arithmetic cause)
  | divided (step evLimit : α) (step_pos : ¬ step ≤ 0.0) (cause : ArithmeticFault)
    (h : Scalar.divide (2.0 * evLimit) step = .error cause) (heq : fault = .arithmetic cause)
  | count (quotient : α) (cause : ArithmeticFault) (h : Scalar.round quotient = .error cause)
    (heq : fault = .arithmetic cause)
  | written {step evLimit quotient : α} {intervals : Int}
    (underway : Underway rows highest step evLimit quotient intervals)
    (h : writeRows evLimit step rows (List.replicate (intervals + 1).toNat 0) = .error fault)
  | start {step evLimit quotient : α} {intervals : Int}
    (underway : Underway rows highest step evLimit quotient intervals)
    (h : rowIndex evLimit step lowest = .error fault)
  | mirrored {step evLimit quotient : α} {intervals : Int}
    (underway : Underway rows highest step evLimit quotient intervals) {measured : List Int} {evStart : Int}
    (written : writeRows evLimit step rows (List.replicate (intervals + 1).toNat 0) = .ok measured)
    (start : rowIndex evLimit step lowest = .ok evStart) (h : mirrorCounts 0 evStart.toNat measured = .error fault)

theorem ofRows_error {distance lowest highest : α} {rows : List (α × Nat)} {fault : Fault α}
    (h : ofRows distance rows lowest highest = .error fault) : Misfit fault ∨ Interrupted rows lowest highest fault := by
  unfold ofRows at h
  by_cases habove : highest ≤ 0.0
  · rw [if_pos habove] at h
    cases h
    exact .inl ⟨_, rfl⟩
  rw [if_neg habove] at h
  by_cases hseveral : rows.length < 2
  · simp only [if_pos hseveral] at h
    cases h
    exact .inl ⟨_, rfl⟩
  simp only [if_neg hseveral, pure_bind] at h
  rcases except_bind_error h with h | ⟨found, hfound, h⟩
  · obtain ⟨cause, hcause, rfl⟩ := except_mapError_error h
    exact .inr (.division habove hseveral cause hcause rfl)
  cases found with
  | none =>
    cases h
    exact .inl ⟨_, rfl⟩
  | some step =>
  by_cases hstep : step ≤ 0.0
  · simp only [if_pos hstep] at h
    cases h
    exact .inl ⟨_, rfl⟩
  simp only [if_neg hstep] at h
  rcases except_bind_error h with h | ⟨quotient, hquotient, h⟩
  · obtain ⟨cause, hcause, rfl⟩ := except_mapError_error h
    exact .inr (.divided step _ hstep cause hcause rfl)
  rcases except_bind_error h with h | ⟨intervals, hintervals, h⟩
  · obtain ⟨cause, hcause, rfl⟩ := except_mapError_error h
    exact .inr (.count quotient cause hcause rfl)
  by_cases hsize : intervals + 1 < minRows
  · rw [if_pos hsize] at h
    cases h
    exact .inl ⟨_, rfl⟩
  rw [if_neg hsize] at h
  have hunderway : Underway rows highest step _ quotient intervals :=
    ⟨habove, hseveral, except_mapError_ok hfound, hstep, rfl, except_mapError_ok hquotient,
      except_mapError_ok hintervals, hsize⟩
  rcases except_guard_error h with rfl | h
  · exact .inl ⟨_, rfl⟩
  rcases except_guard_error h with rfl | h
  · exact .inl ⟨_, rfl⟩
  rcases except_bind_error h with h | ⟨measured, hwritten, h⟩
  · exact .inr (.written hunderway h)
  rcases except_bind_error h with h | ⟨evStart, hstart, h⟩
  · exact .inr (.start hunderway h)
  rcases except_bind_error h with h | ⟨azCounts, -, h⟩
  · exact .inr (.mirrored hunderway hwritten hstart h)
  rcases except_bind_error h with h | ⟨_, -, h⟩
  · obtain ⟨cause, -, rfl⟩ := except_mapError_error h
    exact .inl ⟨_, rfl⟩
  · cases h

theorem Interrupted.offCounts {lowest highest : α} {rows : List (α × Nat)} {fault : Fault α}
    (h : Interrupted rows lowest highest fault) : OffCounts fault := by
  cases h with
  | division _ _ cause _ heq => rw [heq]; exact offCounts_arithmetic cause
  | divided _ _ _ cause _ heq => rw [heq]; exact offCounts_arithmetic cause
  | count _ cause _ heq => rw [heq]; exact offCounts_arithmetic cause
  | written _ h => exact writeRows_faults h
  | start _ h => exact rowIndex_faults h
  | mirrored _ _ _ h => exact mirrorCounts_faults h

theorem judgeRow_faulty {distance elevation : α} {azimuths : List α} {fault : Fault α}
    (h : judgeRow distance elevation azimuths = .faulty fault) : Misfit fault ∨
      ∃ cause, azimuthCount? angleTolerance azimuths = .error cause ∧ fault = .arithmetic cause := by
  unfold judgeRow at h
  split at h
  · split at h
    · cases h
    · cases h
      exact .inl ⟨_, rfl⟩
  split at h
  · cases h
  split at h
  · cases h
  · cases h
    exact .inl ⟨_, rfl⟩
  · rename_i cause hcause
    cases h
    exact .inr ⟨cause, hcause, rfl⟩

/-- A shell stops detection for one of its rows, or because its rows do not give a layout. -/
theorem ofShell_error {distance : α} {verdicts : List (RowVerdict α)} {fault : Fault α}
    (h : ofShell distance verdicts = .error fault) : .faulty fault ∈ verdicts ∨
      ∃ rows lowest highest, usableRows verdicts = .ok rows ∧ (rows.map Prod.fst).head? = some lowest ∧
        (rows.map Prod.fst).getLast? = some highest ∧ ofRows distance rows lowest highest = .error fault := by
  rcases except_bind_error h with hrows | ⟨rows, hrows, h⟩
  · exact .inl (usableRows_faults hrows)
  cases rows with
  | nil => cases h
  | cons first rest =>
    rcases except_bind_error h with h | ⟨layout, -, h⟩
    · refine .inr ⟨first :: rest, _, _, hrows, rfl, ?_, h⟩
      rw [List.getLast?_map, List.getLast?_eq_some_getLast (List.cons_ne_nil _ _), Option.map_some]
    · cases h

theorem ofShells_error {positions : List (Spherical α)} {fault : Fault α} : ∀ {distances : List α},
    (ofShells positions distances).2 = .error fault →
      ∃ distance ∈ distances, ofShell distance (judgeShell positions distance) = .error fault
  | [], h => by cases h
  | distance :: rest, h => by
    unfold ofShells at h
    simp only at h
    split at h
    · rename_i cause hshell
      cases h
      exact ⟨distance, List.mem_cons_self, hshell⟩
    · obtain ⟨later, hmem, hshell⟩ := ofShells_error (except_map_error h)
      exact ⟨later, List.mem_cons_of_mem _ hmem, hshell⟩

theorem detect_error {positions : List (Spherical α)} {fault : Fault α} (h : (detect positions).2 = .error fault) :
    Misfit fault ∨
      ∃ distance, ofShell distance (judgeShell (positions.map foldSeam) distance) = .error fault := by
  unfold detect at h
  simp only at h
  split at h
  · cases h
    exact .inl ⟨_, rfl⟩
  split at h
  · cases h
    exact .inl ⟨_, rfl⟩
  · obtain ⟨distance, -, hshell⟩ := ofShells_error h
    exact .inr ⟨distance, hshell⟩

theorem detect_faults {positions : List (Spherical α)} {fault : Fault α}
    (h : (detect positions).2 = .error fault) : OffCounts fault := by
  rcases detect_error h with hmisfit | ⟨distance, hshell⟩
  · exact hmisfit.offCounts
  rcases ofShell_error hshell with hrow | ⟨rows, lowest, highest, -, -, -, hrows⟩
  · obtain ⟨elevation, -, hjudged⟩ := List.mem_map.1 hrow
    rcases judgeRow_faulty hjudged with hmisfit | ⟨cause, -, rfl⟩
    · exact hmisfit.offCounts
    · exact offCounts_arithmetic cause
  · rcases ofRows_error hrows with hmisfit | hinterrupted
    · exact hmisfit.offCounts
    · exact hinterrupted.offCounts

end HrirAtlas.Layout
