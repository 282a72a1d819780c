import HrirAtlas.Proofs.Coverage.Mirrorable
import HrirAtlas.Proofs.Import.ByData
import HrirAtlas.Proofs.Import.Outcome
import HrirAtlas.Proofs.Load.Renumber

/-
One more measurement. Where the detected layout is the same with it and without it, the import with it
ends with the same data set exactly when the grid has no slot for its position. With a slot it is
either the second measurement there, which is refused, or the first of a row that had been mirrored,
which lowers the start of the field. That a measurement is stray to the detection says nothing of
this: the detection tells rows apart by degrees, the grid by a tenth of its step.
-/

namespace HrirAtlas

/-! ## The larger set -/

/-- The number of a measurement when one is put in at a place. -/
def skip (place i : Nat) : Nat := if i < place then i else i + 1

theorem skip_ne (place i : Nat) : skip place i ≠ place := by
  unfold skip
  split <;> omega

/-- The numbers below a bound are those of the others and the place itself. -/
theorem mem_skip_iff {place count i : Nat} (h : place ≤ count) :
    i ∈ List.range (count + 1) ↔ i ∈ (List.range count).map (skip place) ++ [place] := by
  rw [List.mem_append, List.mem_singleton, List.mem_map, List.mem_range]
  constructor
  · intro hi
    rcases Nat.lt_trichotomy i place with hlt | rfl | hgt
    · exact .inl ⟨i, List.mem_range.2 (by omega), if_pos hlt⟩
    · exact .inr rfl
    · refine .inl ⟨i - 1, List.mem_range.2 (by omega), ?_⟩
      unfold skip
      rw [if_neg (by omega)]
      omega
  · rintro (⟨j, hj, rfl⟩ | rfl)
    · have := List.mem_range.1 hj
      unfold skip
      split <;> omega
    · omega

/-- The second set has one more measurement, at a place among those of the first. -/
structure MeasurementSet.Extended {α : Type} (place : Nat) (m m' : MeasurementSet α) : Prop where
  count : m'.positions.length = m.positions.length + 1
  place_le : place ≤ m.positions.length
  renumbered : Renumbered (skip place) m m'
  rate : m'.sampleRate = m.sampleRate

namespace Load

variable {α : Type} [Signal α] {place : Nat} {m m' : MeasurementSet α} {fields : List (Field α)}
  {owner owner' : Nat → Option Nat} {p : Spherical α}

/-- A measurement without a slot leaves every index its owner. -/
theorem Assigned.extend (h : MeasurementSet.Extended place m m')
    (ha : Assigned fields (sphericals m) (List.range m.positions.length) owner)
    (hp : (sphericals m')[place]? = some p) (hr : Grid.resolve? fields p = .ok none) :
    Assigned fields (sphericals m') (List.range m'.positions.length) fun index => (owner index).map (skip place) := by
  rw [h.count]
  exact ((ha.renumber h.renumbered).push_none hp hr).of_mem_iff fun i => mem_skip_iff h.place_le

/-- A measurement with a slot that is assigned with the others owns an index that none of them owns. -/
theorem Assigned.extra_owner (h : MeasurementSet.Extended place m m')
    (ha : Assigned fields (sphericals m) (List.range m.positions.length) owner)
    (ha' : Assigned fields (sphericals m') (List.range m'.positions.length) owner')
    (hp : (sphericals m')[place]? = some p) {slot : Slot α} (hr : Grid.resolve? fields p = .ok (some slot)) :
    owner slot.index = none ∧ owner' slot.index = some place := by
  have hplace : owner' slot.index = some place := by
    have hlt : place < m'.positions.length := by
      have := h.place_le
      rw [h.count]
      omega
    obtain ⟨q, slot?, hq, hslot?, hown⟩ := ha'.found place (List.mem_range.2 hlt)
    rw [hp] at hq
    cases hq
    rw [hr] at hslot?
    cases hslot?
    exact hown slot rfl
  refine ⟨?_, hplace⟩
  rw [Option.eq_none_iff_forall_ne_some]
  intro i hi
  -- the owner among the others would own the index in the larger set too
  obtain ⟨hplaced, q, slot', hq, hslot', he⟩ := ha.owned slot.index i hi
  have hi' := List.mem_range.1 hplaced
  rw [← sphericals_renumbered h.renumbered hi'] at hq
  have hnumber : skip place i ∈ List.range m'.positions.length := by
    rw [h.count]
    exact (mem_skip_iff h.place_le).2 (List.mem_append_left _ (List.mem_map_of_mem hplaced))
  obtain ⟨q', slot?, hq', hslot?, hown⟩ := ha'.found _ hnumber
  rw [hq] at hq'
  cases hq'
  rw [hslot'] at hslot?
  cases hslot?
  have howner := hown slot' rfl
  rw [he, hplace] at howner
  exact skip_ne place i (Option.some.inj howner).symm

end Load

namespace Import

open Stage

variable {α : Type} [Signal α] {place : Nat} {m m' : MeasurementSet α} {o : ImportOptions α}
  {receivers points : Nat} {layouts : List (Layout α)} {s t t' u v : Session α}

/-! ## Stages -/

theorem byData_analyse (threads : Setting α) : ByData (analyse threads) := by
  unfold analyse
  exact Coverage.byData_check.bind fun _ => byData_data.bind fun d =>
    (Onset.byData_addAll.withProgress _ _).bind fun _ => Magnitude.byData_all threads

/-- Two sets with the same layout are prepared alike. -/
theorem prepare_same_layout (hl : (Layout.detect (m.positions.map Cartesian.toSpherical)).2 = .ok layouts)
    (hl' : (Layout.detect (m'.positions.map Cartesian.toSpherical)).2 = .ok layouts) {size : Number α}
    (h : prepare m size s = .ok () t) : ∃ t', prepare m' size s = .ok () t' ∧ t'.data = t.data := by
  obtain ⟨n, -, -, -, -, -, rfl, -⟩ := prepare_ok h
  unfold prepare at h ⊢
  simp only [data_bind, setData_bind] at h ⊢
  obtain ⟨found, u, hsurvey, hallocate⟩ := bind_ok h
  obtain ⟨hfound, hu⟩ := Grid.survey_ok hsurvey
  rw [hl] at hfound
  cases hfound
  obtain ⟨u', hsurvey', hu'⟩ := Grid.survey_of_detect hl' { s with data := { s.data with irSize := n } }
  obtain ⟨t', ht', hdata⟩ := Grid.byData_allocate layouts u u' t () (hu'.trans hu.symm) hallocate
  exact ⟨t', (bind_of_ok hsurvey').trans ht', hdata⟩

theorem setUp_extended (h : MeasurementSet.Extended place m m') (hm : m.Shaped receivers points)
    (hm' : m'.Shaped receivers points)
    (hl : (Layout.detect (m.positions.map Cartesian.toSpherical)).2 = .ok layouts)
    (hl' : (Layout.detect (m'.positions.map Cartesian.toSpherical)).2 = .ok layouts) (hok : setUp m o s = .ok () u) :
    ∃ u', setUp m' o s = .ok () u' ∧ u'.data = u.data := by
  obtain ⟨d, size, hstart, hprepare⟩ := setUp_ok hok
  obtain ⟨u', hprepare', hdata⟩ := prepare_same_layout hl hl' hprepare
  have hreceivers : m'.receivers = m.receivers := hm'.receivers_eq.trans hm.receivers_eq.symm
  have hpoints : m'.points = m.points := hm'.points_eq.trans hm.points_eq.symm
  refine ⟨u', ?_, hdata⟩
  unfold setUp
  rw [start_congr hreceivers hpoints h.rate, hstart]
  exact hprepare'

/-- What loading leaves of a grid: the owners stored, and a rate of its own. -/
theorem loading_data (hready : Load.Ready m receivers points u.data) (h : loading m o u = .ok () v) :
    ∃ r owner irRate irPoints,
      Load.Assigned u.data.fields (Load.sphericals m) (List.range m.positions.length) owner ∧
      v.data = { Load.loaded m r u.data owner with irRate, irPoints } := by
  obtain ⟨w, hresponses, hv⟩ := loading_of_shaped hready.shaped h
  obtain ⟨r, x, owner, -, hassigned, hfinish⟩ :=
    (Load.responses_ok_iff (s := { u with count := 0 }) hready rfl).1 hresponses
  obtain ⟨irRate, irPoints, hw⟩ := Load.finish_ok hfinish
  exact ⟨r, owner, irRate, irPoints, hassigned, by rw [hv, hw]⟩

/-- A measurement without a slot leaves loading as it is. -/
theorem loading_extended (h : MeasurementSet.Extended place m m') (hready : Load.Ready m receivers points u.data)
    (hm' : m'.Shaped receivers points) {u' : Session α} (hu : u'.data = u.data) {p : Spherical α}
    (hp : (Load.sphericals m')[place]? = some p) (hr : Grid.resolve? u.data.fields p = .ok none)
    (hok : loading m o u = .ok () v) : ∃ v', loading m' o u' = .ok () v' ∧ v'.data = v.data := by
  obtain ⟨w, hresponses, hv⟩ := loading_of_shaped hready.shaped hok
  obtain ⟨r, x, owner, hconverter, hassigned, hfinish⟩ :=
    (Load.responses_ok_iff (s := { u with count := 0 }) hready rfl).1 hresponses
  have hready' : Load.Ready m' receivers points u.data := { hready with shaped := hm' }
  obtain ⟨x', hconverter', hx⟩ :=
    Load.byData_converter? _ _ { u with count := 0 } { u' with count := 0 } x r hu hconverter
  have hfinish' := Load.byData_finish o.outRate r _
    { x' with data := Load.loaded m' r u.data fun index => (owner index).map (skip place),
              count := x'.count + m'.positions.length } w ()
    (Load.loaded_renumbered h.renumbered r u.data hassigned.owner_lt) hfinish
  obtain ⟨w', hfinish', hw⟩ := hfinish'
  have hresponses' := (Load.responses_ok_iff (s := { u' with count := 0 }) hready' hu).2
    ⟨r, x', _, hconverter', hassigned.extend h hp hr, hfinish'⟩
  refine ⟨{ w' with printed := w'.printed ++ progressLine "Loading HRIRs" w'.count m'.positions.length }, ?_, ?_⟩
  · unfold loading
    rw [bind_of_ok (ofShape_of_ok hm'.measurements_eq)]
    unfold withProgress
    rw [hresponses']
  · rw [hv]
    exact hw

/-! ## The import -/

/-- Imports of both sets that end with the same data set have no slot for the additional position. -/
theorem resolve?_of_same_data (h : MeasurementSet.Extended place m m') {u' v' : Session α}
    (hready : Load.Ready m receivers points u.data) (hready' : Load.Ready m' receivers points u'.data)
    (hu : u'.data = u.data) {p : Spherical α} (hp : (Load.sphericals m')[place]? = some p)
    (hloading : loading m o u = .ok () v) (hloading' : loading m' o u' = .ok () v')
    (hanalyse : analyse o.threads v = .ok () t) (hanalyse' : analyse o.threads v' = .ok () t')
    (hdata : t'.data = t.data) : Grid.resolve? u.data.fields p = .ok none := by
  obtain ⟨r, owner, irRate, irPoints, hassigned, hv⟩ := loading_data hready hloading
  obtain ⟨r', owner', irRate', irPoints', hassigned', hv'⟩ := loading_data hready' hloading'
  obtain ⟨a, c, _, _, _, hcheck, hc, hfinished, -, -⟩ := analyse_steps hready.allocated hv hanalyse
  obtain ⟨a', c', _, _, _, hcheck', hc', hfinished', -, -⟩ := analyse_steps hready'.allocated hv' hanalyse'
  rw [hu] at hassigned'
  -- the fields after both checks are those of the data set that both imports end with
  have hfields : a'.data.fields = a.data.fields := by
    rw [← hc, ← hc', ← hfinished.fields_eq, ← hfinished'.fields_eq, hdata]
  have hcovered := (Coverage.check_covered hcheck).fields
  have hcovered' := (Coverage.check_covered hcheck').fields
  have hv_fields : v.data.fields = u.data.fields := by rw [hv]; rfl
  have hv_fields' : v'.data.fields = u.data.fields := by rw [hv', ← hu]; rfl
  rw [hv_fields] at hcovered
  rw [hfields, hv_fields'] at hcovered'
  have hplace : place ∈ List.range m'.positions.length := by
    have := h.place_le
    rw [List.mem_range, h.count]
    omega
  obtain ⟨q, slot?, hq, hr, -⟩ := hassigned'.found place hplace
  rw [hp] at hq
  cases hq
  cases slot? with
  | none => exact hr
  | some slot =>
    exfalso
    obtain ⟨hfree, howned⟩ := hassigned.extra_owner h hassigned' hp hr
    have hslot := Grid.resolve?_mem hr
    have hempty : v.data.populated slot = false := by
      rw [hv]
      exact (Load.populated_loaded (r := r) hready.allocated hslot).trans (by rw [hfree]; rfl)
    have hheld : v'.data.populated slot = true := by
      rw [hv']
      exact (Load.populated_loaded (r := r') hready'.allocated (by rw [hu]; exact hslot)).trans (by rw [howned]; rfl)
    obtain ⟨f, hf, hslot⟩ := List.mem_flatMap.1 hslot
    obtain ⟨start, hmirrorable, hmirrorable'⟩ := Coverage.same_start_of_coveredFrom hcovered hcovered' f hf
    obtain ⟨row, column, hhere⟩ := Field.exists_slot? hslot
    -- the slot is empty in one grid and so below the start, and held in the other and so not below it
    rcases Nat.lt_or_ge row start with hlt | hle
    · rw [hmirrorable'.lowest.below row hlt column slot hhere] at hheld
      cases hheld
    · rw [hmirrorable.full row hle column slot hhere] at hempty
      cases hempty

/-- Where the detected layout is the same with and without an additional measurement, the import with
it ends well with the same data set exactly when the grid has no slot for its position. -/
theorem run_extended_iff (h : MeasurementSet.Extended place m m') (hm : m.Shaped receivers points)
    (hm' : m'.Shaped receivers points) (hears : 0 < receivers)
    (hl : (Layout.detect (m.positions.map Cartesian.toSpherical)).2 = .ok layouts)
    (hl' : (Layout.detect (m'.positions.map Cartesian.toSpherical)).2 = .ok layouts) {p : Spherical α}
    (hp : (m'.positions.map Cartesian.toSpherical)[place]? = some p) (hok : run m o s = .ok () t) :
    (∃ t', run m' o s = .ok () t' ∧ t'.data = t.data) ↔
      Grid.resolve? (Grid.newFields 0 layouts).1 p = .ok none := by
  rw [run_eq] at hok ⊢
  obtain ⟨_, u, hsetUp, hrest⟩ := bind_ok hok
  obtain ⟨_, v, hloading, hanalyse⟩ := bind_ok hrest
  obtain ⟨u', hsetUp', hu⟩ := setUp_extended h hm hm' hl hl' hsetUp
  have hready := ready_of_shaped hm hears hsetUp
  have hfields : (Grid.newFields 0 layouts).1 = u.data.fields := by
    obtain ⟨d, size, -, hprepare⟩ := setUp_ok hsetUp
    obtain ⟨n, found, fields, contents, irCount, buffer, -, hfound, hfields, -, hdata⟩ := prepare_ok hprepare
    rw [hl] at hfound
    cases hfound
    rw [hfields, hdata]
  rw [hfields, bind_of_ok hsetUp']
  constructor
  · rintro ⟨t', hok', hdata⟩
    obtain ⟨_, v', hloading', hanalyse'⟩ := bind_ok hok'
    exact resolve?_of_same_data h hready (ready_of_shaped hm' hears hsetUp') hu hp hloading hloading' hanalyse
      hanalyse' hdata
  · intro hr
    obtain ⟨v', hloading', hv⟩ := loading_extended h hready hm' hu hp hr hloading
    obtain ⟨t', hanalyse', hdata⟩ := byData_analyse o.threads v v' t () hv hanalyse
    exact ⟨t', (bind_of_ok hloading').trans hanalyse', hdata⟩

/-! ## A point over the upper half -/

section Upper

open Layout

variable {e : ℚ}

/-- The upper half with a point above its first one. -/
def upperAnd (e : ℚ) : List (Spherical ℚ) := upperPositions ++ [⟨0, e, 1⟩]

theorem mem_upperAnd {p : Spherical ℚ} :
    p ∈ upperAnd e ↔ p = ⟨0, 0, 1⟩ ∨ p = ⟨180, 0, 1⟩ ∨ p = ⟨0, 90, 1⟩ ∨ p = ⟨0, e, 1⟩ := by
  simp [upperAnd, upperPositions]

theorem foldSeam_upperAnd : (upperAnd e).map foldSeam = upperAnd e := by
  have hfold : ∀ p ∈ upperAnd e, foldSeam p = p := by
    intro p hp
    unfold foldSeam
    rw [if_neg]
    rw [angleTolerance_eq, not_lt]
    rcases mem_upperAnd.1 hp with rfl | rfl | rfl | rfl <;> norm_num
  exact (List.map_congr_left hfold).trans (List.map_id _)

theorem distances_upperAnd : Cluster.along .distance ⟨none, none, none⟩ Cluster.tolerances (upperAnd e) = [1] := by
  unfold Cluster.along
  refine Cluster.distinct_eq_of_separated (by rw [distanceTolerance_eq]; norm_num) (List.pairwise_singleton ..)
    fun v => ?_
  rw [mem_along]
  simp only [mem_upperAnd, matchesAll_none, List.mem_singleton, true_and]
  constructor
  · rintro ⟨p, rfl | rfl | rfl | rfl, rfl⟩ <;> rfl
  · rintro rfl
    exact ⟨_, .inl rfl, rfl⟩

theorem elevations_upperAnd (he : 1 / 10 < e) (he' : e < 899 / 10) :
    Cluster.along .elevation ⟨none, none, some 1⟩ Cluster.tolerances (upperAnd e) = [0, e, 90] := by
  unfold Cluster.along
  refine Cluster.distinct_eq_of_separated (by rw [elevationTolerance_eq]; norm_num) ?_ fun v => ?_
  · rw [elevationTolerance_eq]
    norm_num
    constructor <;> linarith
  · rw [mem_along]
    simp only [mem_upperAnd, matchesAll_distance, List.mem_cons, List.not_mem_nil, or_false]
    constructor
    · rintro ⟨p, rfl | rfl | rfl | rfl, -, rfl⟩ <;> simp [Axis.of]
    · rintro (rfl | rfl | rfl)
      · exact ⟨_, .inl rfl, by norm_num, rfl⟩
      · exact ⟨_, .inr (.inr (.inr rfl)), by norm_num, rfl⟩
      · exact ⟨_, .inr (.inr (.inl rfl)), by norm_num, rfl⟩

/-- The row of a point is that point, if no other is near. -/
theorem azimuths_upperAnd {c : ℚ} {azimuths : List ℚ}
    (hsep : azimuths.Pairwise fun a b => a + 0.1 < b)
    (hmem : ∀ v, v ∈ azimuths ↔ |0 - c| ≤ 0.1 ∧ (v = 0 ∨ v = 180) ∨ |90 - c| ≤ 0.1 ∧ v = 0 ∨ |e - c| ≤ 0.1 ∧ v = 0) :
    Cluster.along .azimuth ⟨none, some c, some 1⟩ Cluster.tolerances (upperAnd e) = azimuths := by
  unfold Cluster.along
  refine Cluster.distinct_eq_of_separated (by rw [azimuthTolerance_eq]; norm_num) hsep fun v => ?_
  rw [mem_along, hmem]
  simp only [mem_upperAnd, matchesAll_row]
  constructor
  · rintro ⟨p, rfl | rfl | rfl | rfl, ⟨hnear, -⟩, rfl⟩
    · exact .inl ⟨hnear, .inl rfl⟩
    · exact .inl ⟨hnear, .inr rfl⟩
    · exact .inr (.inl ⟨hnear, rfl⟩)
    · exact .inr (.inr ⟨hnear, rfl⟩)
  · have hone : |(1 : ℚ) - 1| ≤ 0.001 := by norm_num
    rintro (⟨hnear, rfl | rfl⟩ | ⟨hnear, rfl⟩ | ⟨hnear, rfl⟩)
    · exact ⟨_, .inl rfl, ⟨hnear, hone⟩, rfl⟩
    · exact ⟨_, .inr (.inl rfl), ⟨hnear, hone⟩, rfl⟩
    · exact ⟨_, .inr (.inr (.inl rfl)), ⟨hnear, hone⟩, rfl⟩
    · exact ⟨_, .inr (.inr (.inr rfl)), ⟨hnear, hone⟩, rfl⟩

theorem judgeShell_upperAnd (he : 1 / 10 < e) (he' : e < 899 / 10) :
    judgeShell (upperAnd e) 1 = [.usable 0 2, .stray e 1, .usable 90 1] := by
  have h0 : ¬ |e| ≤ 1 / 10 := by rw [abs_of_pos (by linarith), not_le]; exact he
  have h90 : ¬ |90 - e| ≤ 1 / 10 := by rw [abs_of_pos (by linarith), not_le]; linarith
  have hrow : Cluster.along .azimuth ⟨none, some 0, some 1⟩ Cluster.tolerances (upperAnd e) = [0, 180] := by
    refine azimuths_upperAnd (by norm_num) fun v => ?_
    norm_num [h0]
  have hstray : Cluster.along .azimuth ⟨none, some e, some 1⟩ Cluster.tolerances (upperAnd e) = [0] := by
    refine azimuths_upperAnd (List.pairwise_singleton ..) fun v => ?_
    norm_num [h0, h90]
  have hpole : Cluster.along .azimuth ⟨none, some 90, some 1⟩ Cluster.tolerances (upperAnd e) = [0] := by
    refine azimuths_upperAnd (List.pairwise_singleton ..) fun v => ?_
    rw [abs_sub_comm e]
    norm_num [h90]
  have hbelow : ¬ |e| > poleElevation := by rw [poleElevation_eq, abs_of_pos (by linarith), not_lt]; norm_num; linarith
  unfold judgeShell
  rw [elevations_upperAnd he he']
  simp only [List.map_cons, List.map_nil, hrow, hstray, hpole]
  have hstray' : judgeRow 1 e [0] = .stray e 1 := by
    unfold judgeRow
    rw [if_neg (by rw [Exact.abs_eq]; exact hbelow), if_pos (by decide)]
    rfl
  have hcount : azimuthCount? angleTolerance [(0 : ℚ), 180] = .ok (some 2) := by decide +kernel
  have hpole' : judgeRow 1 90 [(0 : ℚ)] = .usable 90 1 := judgeRow_pole (by norm_num)
  rw [judgeRow_counted (by norm_num) (by decide) hcount, hstray', hpole']

/-- The additional point is dropped as stray, and the layout is found as without it. -/
theorem detect_upperAnd (he : 1 / 10 < e) (he' : e < 899 / 10) : (detect (upperAnd e)).2 = .ok [upperLayout] := by
  have hshell : ofShell 1 [.usable 0 2, .stray e 1, .usable 90 1] = .ok (some upperLayout) := by
    have hrows := upperLayout_isGrid.ofRows_eq
    rw [show upperLayout.foundRows = [(0, 2), (90, 1)] by decide +kernel,
      show upperLayout.elevation upperLayout.evStart.toNat = 0 by decide +kernel] at hrows
    unfold ofShell
    rw [show usableRows [.usable 0 2, .stray e 1, .usable 90 1] = .ok [((0 : ℚ), 2), (90, 1)] from rfl]
    show (do let layout ← ofRows 1 [((0 : ℚ), 2), (90, 1)] 0 90; return some layout) = _
    rw [show ofRows 1 [((0 : ℚ), 2), (90, 1)] 0 90 = .ok upperLayout from hrows]
    rfl
  have hshells : (ofShells (upperAnd e) [1]).2 = .ok [upperLayout] := by
    unfold ofShells
    simp only [judgeShell_upperAnd he he', hshell]
    rfl
  have hdistances : Cluster.along .distance ⟨none, none, none⟩ Cluster.tolerances ((upperAnd e).map foldSeam) = [1] := by
    rw [foldSeam_upperAnd, distances_upperAnd]
  rw [← foldSeam_upperAnd] at hshells
  rw [detect_of_shells hdistances (by decide) (List.cons_ne_nil _ _) (Prod.ext rfl hshells)]

end Upper

/-- The measurements of the upper half and one more at a point. -/
def upperHalfAnd (extra : Cartesian ℚ) : MeasurementSet ℚ where
  positions := MeasurementSet.upperHalf.positions ++ [extra]
  responses := ⟨[4, 2, 2], #[1, 0, 2, 1, 0, 3, 5, 5, 1, 2, 3, 4, 1, 1, 1, 1]⟩
  sampleRate := 48000
  delays := some ⟨[4, 2], #[1, 2, 3, 4, 5, 6, 7, 8]⟩
  delayKind := .perMeasurement
  emitters := 1

theorem upperHalfAnd_wellShaped (extra : Cartesian ℚ) : (upperHalfAnd extra).WellShaped 2 2 :=
  ⟨⟨rfl, rfl, _, rfl, rfl, rfl⟩, .inr rfl⟩

theorem upperHalf_extended (extra : Cartesian ℚ) :
    MeasurementSet.Extended 3 MeasurementSet.upperHalf (upperHalfAnd extra) := by
  have hsame : ∀ i < 3, ∀ receiver,
      (upperHalfAnd extra).response (skip 3 i) receiver = MeasurementSet.upperHalf.response i receiver ∧
      (upperHalfAnd extra).delay (skip 3 i) receiver = MeasurementSet.upperHalf.delay i receiver := by
    intro i hi receiver
    -- receivers from the third on are refused in both alike
    rcases receiver with _ | _ | receiver <;> interval_cases i <;> exact ⟨rfl, rfl⟩
  refine ⟨rfl, le_rfl, ⟨fun i hi => ?_, fun i hi receiver => (hsame i hi receiver).1,
    fun i hi receiver => (hsame i hi receiver).2⟩, rfl⟩
  have hi' : i < 3 := hi
  interval_cases i <;> rfl

/-- Above the first point by less than a tenth of a step of the grid. -/
def nearFirst : Cartesian ℚ := ⟨899 / 901, 0, 60 / 901⟩

theorem detect_upperHalf :
    (Layout.detect (MeasurementSet.upperHalf.positions.map Cartesian.toSpherical)).2 = .ok [upperLayout] := by
  rw [sphericals_upperHalf, detect_upperPositions]

theorem sphericals_nearFirst : (upperHalfAnd nearFirst).positions.map Cartesian.toSpherical = upperAnd (5400 / 959) := by
  decide +kernel

theorem run_nearFirst : ∃ t, run (upperHalfAnd nearFirst) doubled { data := DataSet.fresh } =
    .error (.duplicate 0 (5400 / 959) 1) t := by
  have herror : (match run (upperHalfAnd nearFirst) doubled { data := DataSet.fresh } with
      | .ok .. => none | .error cause _ => some cause) = some (.duplicate 0 (5400 / 959) 1) := by
    unfold run prepare Grid.prepare Grid.survey
    rw [sphericals_nearFirst, show Layout.detect (upperAnd (5400 / 959)) =
      ((Layout.detect (upperAnd (5400 / 959))).1, .ok [upperLayout]) from
      Prod.ext rfl (detect_upperAnd (by norm_num) (by norm_num))]
    decide +kernel
  cases hrun : run (upperHalfAnd nearFirst) doubled { data := DataSet.fresh } with
  | ok u t => rw [hrun] at herror; cases herror
  | error cause t => rw [hrun] at herror; cases herror; exact ⟨t, rfl⟩

/-- Far from every row of the grid. -/
def betweenRows : Cartesian ℚ := ⟨3 / 5, 0, 4 / 5⟩

theorem sphericals_betweenRows :
    (upperHalfAnd betweenRows).positions.map Cartesian.toSpherical = upperAnd (360 / 7) := by
  decide +kernel

theorem run_extended_betweenRows :
    MeasurementSet.Extended 3 MeasurementSet.upperHalf (upperHalfAnd betweenRows) ∧
    MeasurementSet.upperHalf.Shaped 2 2 ∧ (upperHalfAnd betweenRows).Shaped 2 2 ∧ 0 < 2 ∧
    (Layout.detect (MeasurementSet.upperHalf.positions.map Cartesian.toSpherical)).2 = .ok [upperLayout] ∧
    (Layout.detect ((upperHalfAnd betweenRows).positions.map Cartesian.toSpherical)).2 = .ok [upperLayout] ∧
    ((upperHalfAnd betweenRows).positions.map Cartesian.toSpherical)[3]? = some ⟨0, 360 / 7, 1⟩ ∧
    Grid.resolve? (Grid.newFields 0 [upperLayout]).1 ⟨0, 360 / 7, 1⟩ = .ok none ∧
    ∃ t, run MeasurementSet.upperHalf doubled { data := DataSet.fresh } = .ok () t ∧
      ∃ t', run (upperHalfAnd betweenRows) doubled { data := DataSet.fresh } = .ok () t' ∧ t'.data = t.data := by
  have hm := MeasurementSet.upperHalf_wellShaped.shaped
  have hm' := (upperHalfAnd_wellShaped betweenRows).shaped
  have hl' : (Layout.detect ((upperHalfAnd betweenRows).positions.map Cartesian.toSpherical)).2 = .ok [upperLayout] := by
    rw [sphericals_betweenRows, detect_upperAnd (by norm_num) (by norm_num)]
  have hp : ((upperHalfAnd betweenRows).positions.map Cartesian.toSpherical)[3]? = some ⟨0, 360 / 7, 1⟩ := by
    rw [sphericals_betweenRows]
    rfl
  have hr : Grid.resolve? (Grid.newFields 0 [upperLayout]).1 ⟨0, 360 / 7, 1⟩ = .ok none := by decide +kernel
  obtain ⟨t, ht⟩ := run_upperHalf
  exact ⟨upperHalf_extended betweenRows, hm, hm', by decide, detect_upperHalf, hl', hp, hr, t, ht,
    (run_extended_iff (upperHalf_extended betweenRows) hm hm' (by decide) detect_upperHalf hl' hp ht).2 hr⟩

/-- A measurement that the detection drops as stray, with the layout as without it, can still stop
an import that ends well without it: its position has the slot of another. -/
theorem stray_nearFirst_refused :
    MeasurementSet.Extended 3 MeasurementSet.upperHalf (upperHalfAnd nearFirst) ∧
    MeasurementSet.upperHalf.WellShaped 2 2 ∧ (upperHalfAnd nearFirst).WellShaped 2 2 ∧
    (Layout.detect (MeasurementSet.upperHalf.positions.map Cartesian.toSpherical)).2 = .ok [upperLayout] ∧
    (Layout.detect ((upperHalfAnd nearFirst).positions.map Cartesian.toSpherical)).2 = .ok [upperLayout] ∧
    ((upperHalfAnd nearFirst).positions.map Cartesian.toSpherical)[3]? = some ⟨0, 5400 / 959, 1⟩ ∧
    Layout.RowVerdict.stray (5400 / 959) 1 ∈
      Layout.judgeShell (((upperHalfAnd nearFirst).positions.map Cartesian.toSpherical).map Layout.foldSeam) 1 ∧
    (∃ t, run MeasurementSet.upperHalf doubled { data := DataSet.fresh } = .ok () t) ∧
    ∃ t, run (upperHalfAnd nearFirst) doubled { data := DataSet.fresh } = .error (.duplicate 0 (5400 / 959) 1) t := by
  have he : (1 / 10 : ℚ) < 5400 / 959 := by norm_num
  have he' : (5400 / 959 : ℚ) < 899 / 10 := by norm_num
  rw [sphericals_nearFirst, detect_upperAnd he he', foldSeam_upperAnd, judgeShell_upperAnd he he']
  exact ⟨upperHalf_extended nearFirst, MeasurementSet.upperHalf_wellShaped, upperHalfAnd_wellShaped nearFirst,
    detect_upperHalf, rfl, rfl, List.mem_cons_of_mem _ List.mem_cons_self, run_upperHalf, run_nearFirst⟩

end Import

end HrirAtlas
