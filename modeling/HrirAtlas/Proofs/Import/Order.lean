import HrirAtlas.Proofs.Import.Outcome
import HrirAtlas.Proofs.Layout.Order
import HrirAtlas.Proofs.Load.Order

/-
The order of the measurements does not matter. An import of the same measurements in another order
ends with the same data set, journal and all, or fails as well; a refusal by the size checks or by
the detection of the layout is the same fault.
-/

namespace HrirAtlas.Import

variable {α : Type} [Signal α] {σ : Equiv.Perm Nat} {m m' : MeasurementSet α} {o : ImportOptions α}

/-- The fault of the size checks or of the detection of the layout, if one of them refuses the set. -/
def refusal? (m : MeasurementSet α) (o : ImportOptions α) : Option (Fault α) :=
  match start m o with
  | .error cause => some cause
  | .ok _ =>
    match (Layout.detect (m.positions.map Cartesian.toSpherical)).2 with
    | .error cause => some cause
    | .ok _ => none

/-- The coordinates of a set, folded at the seam, compare as an exact total order. -/
def ExactPositions (m : MeasurementSet α) : Prop :=
  Scalar.ExactOn fun x => ∃ p ∈ m.positions, ∃ axis : Axis, x = axis.of (Layout.foldSeam p.toSpherical)

/-! ## The stages before loading -/

theorem start_reordered (h : MeasurementSet.Reordered σ m m') (o : ImportOptions α) : start m' o = start m o := by
  have hreceivers : m'.receivers = m.receivers := by unfold MeasurementSet.receivers Tensor.axisLength; rw [h.shape]
  have hpoints : m'.points = m.points := by unfold MeasurementSet.points Tensor.axisLength; rw [h.shape]
  exact start_congr hreceivers hpoints h.rate o

theorem detect_reordered (h : MeasurementSet.Reordered σ m m') (hexact : ExactPositions m) :
    Layout.detect (m.positions.map Cartesian.toSpherical) =
    Layout.detect (m'.positions.map Cartesian.toSpherical) := by
  refine Layout.detect_eq_of_perm hexact (fun p hp axis => ?_) (h.perm_positions.map _)
  obtain ⟨q, hq, rfl⟩ := List.mem_map.1 hp
  exact ⟨q, hq, axis, rfl⟩

theorem prepare_reordered (h : MeasurementSet.Reordered σ m m') (hexact : ExactPositions m) (size : Number α) :
    prepare m' size = prepare m size := by
  have hsurvey : Grid.survey (m'.positions.map Cartesian.toSpherical) =
    Grid.survey (m.positions.map Cartesian.toSpherical) := by
    unfold Grid.survey
    rw [detect_reordered h hexact, List.length_map, List.length_map, h.count]
  unfold prepare Grid.prepare
  rw [hsurvey]

theorem setUp_reordered (h : MeasurementSet.Reordered σ m m') (hexact : ExactPositions m) (o : ImportOptions α) :
    setUp m' o = setUp m o := by
  unfold setUp
  rw [start_reordered h]
  simp only [prepare_reordered h hexact]

theorem prepare_refused {cause : Fault α}
    (h : (Layout.detect (m.positions.map Cartesian.toSpherical)).2 = .error cause) (size : Number α) (s : Session α) :
    ∃ t, prepare m size s = .error cause t := by
  have hsurvey : ∀ u : Session α, ∃ t, Grid.survey (m.positions.map Cartesian.toSpherical) u = .error cause t := by
    intro u
    unfold Grid.survey
    rw [Stage.report_bind]
    simp only [h]
    exact ⟨_, rfl⟩
  -- whatever the size is, the survey comes before it matters
  unfold prepare
  cases size with
  | int n =>
    obtain ⟨t, ht⟩ := hsurvey { s with data := { s.data with irSize := n } }
    refine ⟨t, ?_⟩
    simp only
    rw [Stage.data_bind, Stage.setData_bind]
    exact Stage.bind_of_error ht
  | real x =>
    obtain ⟨t, ht⟩ := hsurvey s
    exact ⟨t, Stage.bind_of_error (by rw [Stage.discard_run, ht])⟩
  | flag on =>
    obtain ⟨t, ht⟩ := hsurvey s
    exact ⟨t, Stage.bind_of_error (by rw [Stage.discard_run, ht])⟩

/-- A refused set stops before the grid. -/
theorem setUp_refused {cause : Fault α} (h : refusal? m o = some cause) (s : Session α) :
    ∃ t, setUp m o s = .error cause t := by
  unfold refusal? at h
  unfold setUp
  cases hstart : start m o with
  | error e =>
    rw [hstart] at h
    cases h
    exact ⟨s, rfl⟩
  | ok answer =>
    obtain ⟨d, size⟩ := answer
    rw [hstart] at h
    cases hdetect : (Layout.detect (m.positions.map Cartesian.toSpherical)).2 with
    | ok layouts => rw [hdetect] at h; cases h
    | error e =>
      rw [hdetect] at h
      cases h
      exact prepare_refused hdetect size { s with data := d }

/-! ## The import -/

theorem loading_reordered (h : MeasurementSet.Reordered σ m m') {receivers points : Nat}
    (hm : m.WellShaped receivers points) (hm' : m'.WellShaped receivers points) {u v : Session α}
    (hready : Load.Ready m receivers points u.data) (hok : loading m o u = .ok () v) : loading m' o u = .ok () v := by
  obtain ⟨w, hresponses, hv⟩ := loading_ok hm hok
  have hready' : Load.Ready m' receivers points u.data := { hready with shaped := hm'.shaped }
  have hresponses' := Load.responses_reordered (s := { u with count := 0 }) h hready hready' rfl hresponses
  unfold loading
  rw [Stage.bind_of_ok (Stage.ofShape_of_ok hm'.shaped.measurements_eq)]
  unfold Stage.withProgress
  rw [hresponses', hv, h.count]

theorem run_ok_reordered (h : MeasurementSet.Reordered σ m m') (hexact : ExactPositions m) {receivers points : Nat}
    (hm : m.WellShaped receivers points) (hm' : m'.WellShaped receivers points) {s t : Session α}
    (hok : run m o s = .ok () t) : run m' o s = .ok () t := by
  rw [run_eq] at hok ⊢
  rw [setUp_reordered h hexact]
  obtain ⟨_, u, hsetUp, hrest⟩ := Stage.bind_ok hok
  obtain ⟨_, v, hloading, hanalyse⟩ := Stage.bind_ok hrest
  rw [Stage.bind_of_ok hsetUp, Stage.bind_of_ok (loading_reordered h hm hm' (ready_of_setUp hm hsetUp) hloading)]
  exact hanalyse

theorem run_refused {cause : Fault α} {s t : Session α} (h : setUp m o s = .error cause t) :
    run m o s = .error cause t := by
  rw [run_eq]
  exact Stage.bind_of_error h

/-- The order of the measurements does not matter: the imports of two orders both end well, with the
same session and so the same data set, or both stop. A refusal by the size checks or the detection is
the same fault for both. -/
theorem run_reordered (h : MeasurementSet.Reordered σ m m') (hexact : ExactPositions m) {receivers points : Nat}
    (hm : m.WellShaped receivers points) (hm' : m'.WellShaped receivers points) (o : ImportOptions α)
    (s : Session α) :
    ((∃ t, run m o s = .ok () t ∧ run m' o s = .ok () t) ∨
      ∃ cause t cause' t', run m o s = .error cause t ∧ run m' o s = .error cause' t') ∧
    refusal? m' o = refusal? m o ∧
    ∀ cause, refusal? m o = some cause → ∃ t, run m o s = .error cause t ∧ run m' o s = .error cause t := by
  -- the other order is treated by the same lemma, and its coordinates are the same ones
  have hexact' : ExactPositions m' := by
    unfold ExactPositions at hexact ⊢
    simpa only [h.perm_positions.mem_iff] using hexact
  refine ⟨?_, ?_, fun cause hcause => ?_⟩
  · cases hrun : run m o s with
    | ok u t => exact .inl ⟨t, rfl, run_ok_reordered h hexact hm hm' hrun⟩
    | error cause t =>
      cases hrun' : run m' o s with
      | ok u t' =>
        rw [run_ok_reordered h.symm hexact' hm' hm hrun'] at hrun
        cases hrun
      | error cause' t' => exact .inr ⟨cause, t, cause', t', rfl, rfl⟩
  · unfold refusal?
    rw [start_reordered h, ← detect_reordered h hexact]
  · obtain ⟨t, ht⟩ := setUp_refused hcause s
    exact ⟨t, run_refused ht, run_refused (by rw [setUp_reordered h hexact]; exact ht)⟩

/-- The measurements of the upper half with the first two in each other's place. -/
def upperHalfSwapped : MeasurementSet ℚ :=
  { MeasurementSet.upperHalf with
    positions := [⟨-1, 0, 0⟩, ⟨1, 0, 0⟩, ⟨0, 0, 1⟩]
    responses := ⟨[3, 2, 2], #[0, 3, 5, 5, 1, 0, 2, 1, 1, 2, 3, 4]⟩
    delays := some ⟨[3, 2], #[3, 4, 1, 2, 5, 6]⟩ }

theorem upperHalfSwapped_wellShaped : upperHalfSwapped.WellShaped 2 2 := ⟨⟨rfl, rfl, _, rfl, rfl, rfl⟩, .inr rfl⟩

theorem upperHalf_reordered :
    MeasurementSet.Reordered (Equiv.swap 0 1) MeasurementSet.upperHalf upperHalfSwapped := by
  have hswap : ∀ i < 3, ∀ receiver,
      upperHalfSwapped.response i receiver = MeasurementSet.upperHalf.response (Equiv.swap 0 1 i) receiver ∧
      upperHalfSwapped.delay i receiver = MeasurementSet.upperHalf.delay (Equiv.swap 0 1 i) receiver := by
    intro i hi receiver
    -- receivers from the third on are refused in both alike
    rcases receiver with _ | _ | receiver
    · decide +revert
    · decide +revert
    · interval_cases i <;> exact ⟨rfl, rfl⟩
  refine ⟨fun i => ?_, rfl, by decide, rfl, fun i hi receiver => (hswap i hi receiver).1,
    fun i hi receiver => (hswap i hi receiver).2, rfl⟩
  by_cases hi : i < 3
  · have hlt : ∀ i < 3, Equiv.swap 0 1 i < 3 := by decide
    exact iff_of_true (hlt i hi) hi
  · rw [Equiv.swap_apply_of_ne_of_ne (by omega) (by omega)]

theorem run_reordered_upperHalf :
    MeasurementSet.Reordered (Equiv.swap 0 1) MeasurementSet.upperHalf upperHalfSwapped ∧
    ExactPositions MeasurementSet.upperHalf ∧ MeasurementSet.upperHalf.WellShaped 2 2 ∧
    upperHalfSwapped.WellShaped 2 2 ∧
    ∃ t, run MeasurementSet.upperHalf doubled { data := DataSet.fresh } = .ok () t ∧
      run upperHalfSwapped doubled { data := DataSet.fresh } = .ok () t := by
  have hexact : ExactPositions MeasurementSet.upperHalf := Exact.exactOn _
  refine ⟨upperHalf_reordered, hexact, MeasurementSet.upperHalf_wellShaped, upperHalfSwapped_wellShaped, ?_⟩
  obtain ⟨hrun, -, -⟩ := run_reordered upperHalf_reordered hexact MeasurementSet.upperHalf_wellShaped
    upperHalfSwapped_wellShaped doubled { data := DataSet.fresh }
  rcases hrun with hrun | ⟨cause, t, -, -, herror, -⟩
  · exact hrun
  · obtain ⟨t', ht'⟩ := run_upperHalf
    rw [ht'] at herror
    cases herror

end HrirAtlas.Import
