import HrirAtlas.Layout.Detect
import HrirAtlas.Proofs.Layout.Cluster
import HrirAtlas.Proofs.Layout.Uniform

/-
What clustering finds in positions that are sampled from grids: the distances of the grids, the
measured rows of each, and in each row the columns that are present. So every row of a shell is
judged usable, with its full count of azimuths.
-/

namespace HrirAtlas.Layout

/-! ## Windows -/

@[simp] theorem distanceTolerance_eq : (Cluster.tolerances : PerAxis ℚ).of .distance = 0.001 := rfl

@[simp] theorem elevationTolerance_eq : (Cluster.tolerances : PerAxis ℚ).of .elevation = 0.1 := rfl

@[simp] theorem azimuthTolerance_eq : (Cluster.tolerances : PerAxis ℚ).of .azimuth = 0.1 := rfl

theorem passes_iff (tolerance centre value : ℚ) :
    Cluster.passes tolerance (some centre) value = true ↔ |value - centre| ≤ tolerance := by
  unfold Cluster.passes
  rw [decide_eq_true_eq]
  show Scalar.abs (value - centre) ≤ tolerance ↔ _
  rw [Exact.abs_eq]

theorem mem_along {tolerances : PerAxis ℚ} (axis : Axis) (filters : PerAxis (Option ℚ))
    (positions : List (Spherical ℚ)) (v : ℚ) :
    v ∈ (positions.filter (Cluster.matchesAll tolerances filters)).map axis.of ↔
      ∃ p ∈ positions, Cluster.matchesAll tolerances filters p = true ∧ axis.of p = v := by
  simp only [List.mem_map, List.mem_filter, and_assoc]

theorem matchesAll_none (p : Spherical ℚ) : Cluster.matchesAll Cluster.tolerances ⟨none, none, none⟩ p = true := rfl

theorem matchesAll_distance (distance : ℚ) (p : Spherical ℚ) :
    Cluster.matchesAll Cluster.tolerances ⟨none, none, some distance⟩ p = true ↔ |p.distance - distance| ≤ 0.001 := by
  show (true && (true && (Cluster.passes (0.001 : ℚ) (some distance) p.distance && true))) = true ↔ _
  rw [Bool.true_and, Bool.true_and, Bool.and_true, passes_iff]

theorem matchesAll_row (elevation distance : ℚ) (p : Spherical ℚ) :
    Cluster.matchesAll Cluster.tolerances ⟨none, some elevation, some distance⟩ p = true ↔
      |p.elevation - elevation| ≤ 0.1 ∧ |p.distance - distance| ≤ 0.001 := by
  show (true && (Cluster.passes (0.1 : ℚ) (some elevation) p.elevation &&
    (Cluster.passes (0.001 : ℚ) (some distance) p.distance && true))) = true ↔ _
  rw [Bool.true_and, Bool.and_true, Bool.and_eq_true, passes_iff, passes_iff]

/-! ## Distances -/

/-- Grids in order of distance, told apart by more than a millimetre. -/
def Apart (layouts : List (Layout ℚ)) : Prop :=
  layouts.Pairwise fun a b => a.distance + 0.001 < b.distance

section Shells

variable {layouts : List (Layout ℚ)} {positions : List (Spherical ℚ)}

theorem Apart.eq_of_distance_near (hd : Apart layouts) {l other : Layout ℚ} (hl : l ∈ layouts)
    (ho : other ∈ layouts) (hnear : |l.distance - other.distance| ≤ 0.001) : l = other := by
  have hsymm : layouts.Pairwise fun a b => 0.001 < |a.distance - b.distance| :=
    List.Pairwise.imp (fun {a b} hab => by rw [abs_sub_comm, lt_abs]; exact .inl (by linarith)) hd
  have : Std.Symm fun a b : Layout ℚ => 0.001 < |a.distance - b.distance| :=
    ⟨fun a b h => by rw [abs_sub_comm]; exact h⟩
  by_contra hne
  exact absurd (List.Pairwise.forall hsymm hl ho hne) (not_lt.2 hnear)

theorem IsGrid.start_lt {l : Layout ℚ} (h : l.IsGrid) : 2 * l.evStart.toNat + 1 ≤ l.azCounts.length :=
  (h.elevation_nonpos_iff _).1 h.start.2

theorem IsGrid.measured_iff {l : Layout ℚ} (h : l.IsGrid) (row : Nat) : l.evStart ≤ row ↔ l.evStart.toNat ≤ row := by
  have := h.start.1
  omega

/-- Every measured row has a position. -/
theorem Sampled.exists_mem (hs : Sampled layouts positions) {l : Layout ℚ} (hl : l ∈ layouts) (hg : l.IsGrid)
    {row : Nat} (hstart : l.evStart.toNat ≤ row) (hrow : row < l.azCounts.length) :
    ∃ column < l.azimuths row, l.point row column ∈ positions := by
  obtain ⟨column, hlt, hmem, -⟩ := hs.paired l hl row hrow ((hg.measured_iff row).2 hstart)
  exact ⟨column, hlt, hmem⟩

theorem Sampled.distances_eq (hs : Sampled layouts positions) (hg : ∀ l ∈ layouts, l.IsGrid) (hd : Apart layouts) :
    Cluster.along .distance ⟨none, none, none⟩ Cluster.tolerances positions = layouts.map (·.distance) := by
  unfold Cluster.along
  refine Cluster.distinct_eq_of_separated (by rw [distanceTolerance_eq]; norm_num) ?_ fun v => ?_
  · rw [distanceTolerance_eq, List.pairwise_map]
    exact hd
  · rw [mem_along, List.mem_map]
    constructor
    · rintro ⟨p, hp, -, rfl⟩
      obtain ⟨l, hl, row, -, -, column, -, rfl⟩ := hs.onGrid p hp
      exact ⟨l, hl, rfl⟩
    · rintro ⟨l, hl, rfl⟩
      have hlast := (hg l hl).start_lt
      obtain ⟨column, -, hmem⟩ := hs.exists_mem hl (hg l hl) (show _ ≤ l.evStart.toNat from le_rfl) (by omega)
      exact ⟨_, hmem, matchesAll_none _, rfl⟩

/-- A position at the distance of a grid is a point of it. -/
theorem Sampled.of_distance_near (hs : Sampled layouts positions) (hd : Apart layouts) {l : Layout ℚ}
    (hl : l ∈ layouts) {p : Spherical ℚ} (hp : p ∈ positions) (hnear : |p.distance - l.distance| ≤ 0.001) :
    ∃ row < l.azCounts.length, l.evStart ≤ row ∧ ∃ column < l.azimuths row, p = l.point row column := by
  obtain ⟨other, ho, row, hrow, hstart, column, hcolumn, rfl⟩ := hs.onGrid p hp
  obtain rfl := hd.eq_of_distance_near ho hl hnear
  exact ⟨row, hrow, hstart, column, hcolumn, rfl⟩

/-! ## Rows of a shell -/

/-- The measured rows of a grid, from the lowest up. -/
def measuredRows (l : Layout ℚ) : List Nat :=
  List.range' l.evStart.toNat (l.azCounts.length - l.evStart.toNat)

/-- The rows of a grid as they are found, each with its count. -/
def foundRows (l : Layout ℚ) : List (ℚ × Nat) :=
  l.measuredRows.map fun row => (l.elevation row, l.azimuths row)

theorem mem_measuredRows {l : Layout ℚ} {row : Nat} :
    row ∈ l.measuredRows ↔ l.evStart.toNat ≤ row ∧ row < l.azCounts.length := by
  unfold measuredRows
  rw [List.mem_range'_1]
  omega

theorem Sampled.elevations_eq (hs : Sampled layouts positions) (hg : ∀ l ∈ layouts, l.IsGrid) (hd : Apart layouts)
    {l : Layout ℚ} (hl : l ∈ layouts) :
    Cluster.along .elevation ⟨none, none, some l.distance⟩ Cluster.tolerances positions =
      l.measuredRows.map l.elevation := by
  have hrange : l.measuredRows.Pairwise (· < ·) := List.pairwise_lt_range'
  unfold Cluster.along
  refine Cluster.distinct_eq_of_separated (by rw [elevationTolerance_eq]; norm_num) ?_ fun v => ?_
  · rw [elevationTolerance_eq, List.pairwise_map]
    refine hrange.imp fun {row other} hlt => ?_
    have := (hg l hl).elevation_lt hlt
    norm_num at this ⊢
    linarith
  · rw [mem_along, List.mem_map]
    constructor
    · rintro ⟨p, hp, hnear, rfl⟩
      rw [matchesAll_distance] at hnear
      obtain ⟨row, hrow, hstart, column, -, rfl⟩ := hs.of_distance_near hd hl hp hnear
      exact ⟨row, mem_measuredRows.2 ⟨((hg l hl).measured_iff row).1 hstart, hrow⟩, rfl⟩
    · rintro ⟨row, hrow, rfl⟩
      rw [mem_measuredRows] at hrow
      obtain ⟨column, -, hmem⟩ := hs.exists_mem hl (hg l hl) hrow.1 hrow.2
      refine ⟨_, hmem, ?_, rfl⟩
      rw [matchesAll_distance]
      show |l.distance - l.distance| ≤ 0.001
      rw [sub_self, abs_zero]; norm_num

/-- The columns of a row at which there is a position. -/
def presentColumns (l : Layout ℚ) (positions : List (Spherical ℚ)) (row : Nat) : List Nat :=
  (List.range (l.azimuths row)).filter fun column => decide (l.point row column ∈ positions)

theorem mem_presentColumns {l : Layout ℚ} {row column : Nat} :
    column ∈ l.presentColumns positions row ↔ column < l.azimuths row ∧ l.point row column ∈ positions := by
  unfold presentColumns
  rw [List.mem_filter, List.mem_range, decide_eq_true_eq]

theorem pairwise_presentColumns (l : Layout ℚ) (positions : List (Spherical ℚ)) (row : Nat) :
    (l.presentColumns positions row).Pairwise (· < ·) :=
  List.Pairwise.filter _ List.pairwise_lt_range

theorem Sampled.azimuths_eq (hs : Sampled layouts positions) (hg : ∀ l ∈ layouts, l.IsGrid) (hd : Apart layouts)
    {l : Layout ℚ} (hl : l ∈ layouts) {row : Nat} (hrow : row < l.azCounts.length) :
    Cluster.along .azimuth ⟨none, some (l.elevation row), some l.distance⟩ Cluster.tolerances positions =
      (l.presentColumns positions row).map fun column : Nat => (column : ℚ) * 360 / l.azimuths row := by
  have hn := (hg l hl).azimuths_pos hrow
  have hn' : (l.azimuths row : ℚ) ≤ 255 := by exact_mod_cast hn.2
  have hpos : (0 : ℚ) < l.azimuths row := by exact_mod_cast hn.1
  have hstep : (1 : ℚ) ≤ 360 / l.azimuths row := by rw [le_div_iff₀ hpos]; linarith
  unfold Cluster.along
  refine Cluster.distinct_eq_of_separated (by rw [azimuthTolerance_eq]; norm_num) ?_ fun v => ?_
  · rw [azimuthTolerance_eq, List.pairwise_map]
    refine (pairwise_presentColumns l positions row).imp fun {column other} hlt => ?_
    have := step_le_of_lt (n := l.azimuths row) hlt
    norm_num
    linarith
  · rw [mem_along, List.mem_map]
    constructor
    · rintro ⟨p, hp, hnear, rfl⟩
      rw [matchesAll_row] at hnear
      obtain ⟨other, -, -, column, hcolumn, rfl⟩ := hs.of_distance_near hd hl hp hnear.2
      obtain rfl := (hg l hl).eq_of_elevation_near hnear.1
      exact ⟨column, mem_presentColumns.2 ⟨hcolumn, hp⟩, rfl⟩
    · rintro ⟨column, hcolumn, rfl⟩
      refine ⟨_, (mem_presentColumns.1 hcolumn).2, ?_, rfl⟩
      rw [matchesAll_row]
      show |l.elevation row - l.elevation row| ≤ 0.1 ∧ |l.distance - l.distance| ≤ 0.001
      rw [sub_self, sub_self, abs_zero]; norm_num

/-! ## Verdicts -/

theorem Sampled.presentColumns_pole (hs : Sampled layouts positions) {l : Layout ℚ} (hl : l ∈ layouts) (hg : l.IsGrid)
    {row : Nat} (hrow : row ∈ l.measuredRows) (hpole : 89.999 < |l.elevation row|) :
    l.presentColumns positions row = [0] := by
  rw [mem_measuredRows] at hrow
  have hone := hg.azimuths_pole hrow.2 hpole
  obtain ⟨column, hlt, hmem⟩ := hs.exists_mem hl hg hrow.1 hrow.2
  rw [hone] at hlt
  obtain rfl : column = 0 := by omega
  unfold presentColumns
  rw [hone, List.range_one, List.filter_cons_of_pos (by rw [decide_eq_true_eq]; exact hmem), List.filter_nil]

theorem two_le_length_of_mem_ne {columns : List Nat} {k m : Nat} (hk : k ∈ columns) (hm : m ∈ columns) (hne : k ≠ m) :
    2 ≤ columns.length := by
  match columns, hk, hm with
  | [column], hk, hm => exact absurd ((List.mem_singleton.1 hk).trans (List.mem_singleton.1 hm).symm) hne
  | _ :: _ :: _, _, _ => simp

theorem judgeRow_pole {distance elevation azimuth : ℚ} (h : 89.999 < |elevation|) :
    judgeRow distance elevation [azimuth] = .usable elevation 1 := by
  unfold judgeRow
  rw [Exact.abs_eq, poleElevation_eq, if_pos h, List.length_singleton, if_pos rfl]

theorem judgeRow_counted {distance elevation : ℚ} {azimuths : List ℚ} {n : Nat} (h : ¬ 89.999 < |elevation|)
    (hlen : 2 ≤ azimuths.length) (hcount : azimuthCount? angleTolerance azimuths = .ok (some n)) :
    judgeRow distance elevation azimuths = .usable elevation n := by
  unfold judgeRow
  rw [Exact.abs_eq, poleElevation_eq, if_neg h, if_neg (by unfold minAzimuths; omega), hcount]

/-- The shell at a distance has these usable rows and no other: a pole is one point, elsewhere the
azimuths have the count. -/
structure HasRows (positions : List (Spherical ℚ)) (distance : ℚ) (rows : List (ℚ × Nat)) : Prop where
  elevations : Cluster.along .elevation ⟨none, none, some distance⟩ Cluster.tolerances positions = rows.map Prod.fst
  poles : ∀ row ∈ rows, 89.999 < |row.1| → row.2 = 1 ∧
    (Cluster.along .azimuth ⟨none, some row.1, some distance⟩ Cluster.tolerances positions).length = 1
  counts : ∀ row ∈ rows, ¬ 89.999 < |row.1| →
    2 ≤ (Cluster.along .azimuth ⟨none, some row.1, some distance⟩ Cluster.tolerances positions).length ∧
    azimuthCount? angleTolerance
      (Cluster.along .azimuth ⟨none, some row.1, some distance⟩ Cluster.tolerances positions) = .ok (some row.2)

theorem HasRows.judgeShell_eq {positions : List (Spherical ℚ)} {distance : ℚ} {rows : List (ℚ × Nat)}
    (h : HasRows positions distance rows) :
    judgeShell positions distance = rows.map fun row => RowVerdict.usable row.1 row.2 := by
  unfold judgeShell
  rw [h.elevations, List.map_map]
  refine List.map_congr_left fun row hrow => ?_
  show judgeRow distance row.1 (Cluster.along .azimuth ⟨none, some row.1, some distance⟩ Cluster.tolerances positions) =
    .usable row.1 row.2
  by_cases hpole : 89.999 < |row.1|
  · obtain ⟨hone, hlen⟩ := h.poles row hrow hpole
    obtain ⟨azimuth, hazimuth⟩ := List.length_eq_one_iff.1 hlen
    rw [hazimuth, hone, judgeRow_pole hpole]
  · obtain ⟨hlen, hcount⟩ := h.counts row hrow hpole
    exact judgeRow_counted hpole hlen hcount

/-- The measured rows of a grid are found with their full counts, whichever of the other columns are
present. -/
theorem Sampled.hasRows (hs : Sampled layouts positions) (hg : ∀ l ∈ layouts, l.IsGrid) (hd : Apart layouts)
    {l : Layout ℚ} (hl : l ∈ layouts) : HasRows positions l.distance l.foundRows := by
  refine ⟨?_, fun found hfound hpole => ?_, fun found hfound hpole => ?_⟩
  · rw [hs.elevations_eq hg hd hl, foundRows, List.map_map]
    rfl
  · obtain ⟨row, hrow, rfl⟩ := List.mem_map.1 hfound
    have hrow' := mem_measuredRows.1 hrow
    rw [hs.azimuths_eq hg hd hl hrow'.2, hs.presentColumns_pole hl (hg l hl) hrow hpole]
    exact ⟨(hg l hl).azimuths_pole hrow'.2 hpole, rfl⟩
  · obtain ⟨row, hrow, rfl⟩ := List.mem_map.1 hfound
    have hrow' := mem_measuredRows.1 hrow
    have hn := (hg l hl).azimuths_bounds hrow'.2 hpole
    obtain ⟨k, hk, hmem, hnext⟩ := hs.paired l hl row hrow'.2 (((hg l hl).measured_iff row).2 hrow'.1)
    have hk' : k ∈ l.presentColumns positions row := mem_presentColumns.2 ⟨hk, hmem⟩
    have hnext' : (k + 1) % l.azimuths row ∈ l.presentColumns positions row :=
      mem_presentColumns.2 ⟨Nat.mod_lt _ (by omega), hnext⟩
    -- a row has two azimuths or more, so a column is not its own neighbour
    have hne : k ≠ (k + 1) % l.azimuths row := by
      rcases Nat.lt_or_ge (k + 1) (l.azimuths row) with h | h
      · rw [Nat.mod_eq_of_lt h]; omega
      · rw [show k + 1 = l.azimuths row by omega, Nat.mod_self]; omega
    have hlen := two_le_length_of_mem_ne hk' hnext' hne
    rw [hs.azimuths_eq hg hd hl hrow'.2, List.length_map]
    exact ⟨hlen, azimuthCount?_columns hn (pairwise_presentColumns _ _ _) (fun c hc => (mem_presentColumns.1 hc).1)
      hlen hk' hnext'⟩

/-! ## The seam -/

/-- The last column of a row is far from the seam, so that no position is folded. -/
theorem Sampled.map_foldSeam (hs : Sampled layouts positions) (hg : ∀ l ∈ layouts, l.IsGrid) :
    positions.map foldSeam = positions := by
  refine (List.map_congr_left fun p hp => ?_).trans (List.map_id positions)
  obtain ⟨l, hl, row, hrow, -, column, hcolumn, rfl⟩ := hs.onGrid p hp
  have hn := (hg l hl).azimuths_pos hrow
  have hn' : (l.azimuths row : ℚ) ≤ 255 := by exact_mod_cast hn.2
  have hpos : (0 : ℚ) < l.azimuths row := by exact_mod_cast hn.1
  have hcolumn' : (column : ℚ) + 1 ≤ l.azimuths row := by exact_mod_cast hcolumn
  have hazimuth : (column : ℚ) * 360 / l.azimuths row ≤ 359 := by
    rw [div_le_iff₀ hpos]; linarith
  unfold foldSeam
  rw [if_neg]
  · rfl
  · show ¬ (column : ℚ) * 360 / l.azimuths row > 360.0 - angleTolerance
    rw [angleTolerance_eq, not_lt]
    norm_num
    linarith

end Shells

end HrirAtlas.Layout
