import HrirAtlas.Proofs.Layout.Detection
import HrirAtlas.Proofs.Layout.Shell

/-
Detected layouts as grids. Written from the lowest row up and mirrored, the counts of a layout rise
toward the equator and fall behind it, so a row that was neither measured nor mirrored would stand
between rows with azimuths and be refused. This holds while no row is counted from the top; rows
less than two tenths of a degree apart can put the lowest one below the grid.
-/

namespace HrirAtlas.Layout

/-! ## Density -/

section Density

variable {evLimit step distance : ℚ}

theorem not_denser_of_checked : ∀ {counts : List Int} {row : Nat},
    checkDensityFrom evLimit step distance row counts = .ok () → ∀ i (h : i + 1 < counts.length),
    denser (-evLimit + (row + i : Nat) * step) (-evLimit + (row + i : Nat) * step + step) counts[i] counts[i + 1] =
      false
  | lower :: upper :: counts, row, h, i, hi => by
    unfold checkDensityFrom at h
    simp only at h
    split at h
    · cases h
    rename_i hdenser
    cases i with
    | zero => exact Bool.eq_false_iff.2 hdenser
    | succ i =>
      have hrest := not_denser_of_checked h i (by simpa using hi)
      rw [Nat.add_right_comm] at hrest
      exact hrest

variable {counts : List Int} (h : checkDensity counts evLimit step distance = .ok ())

include h

/-- Below the equator the counts do not fall from a row to the next. -/
theorem le_succ_of_checked {i : Nat} (hi : i + 1 < counts.length) (hlow : -evLimit + (i + 1 : Nat) * step ≤ 0.1) :
    counts[i] ≤ counts[i + 1] := by
  refine (denser_eq_false_iff.1 (not_denser_of_checked h i hi)).1 ?_
  push_cast at hlow ⊢
  linarith

/-- Above the equator they do not rise. -/
theorem succ_le_of_checked {i : Nat} (hi : i + 1 < counts.length) (hhigh : -0.1 ≤ -evLimit + i * step) :
    counts[i + 1] ≤ counts[i] := by
  refine (denser_eq_false_iff.1 (not_denser_of_checked h i hi)).2 ?_
  rw [Nat.zero_add]
  exact hhigh

theorem le_of_checked_below (hstep : 0 ≤ step) {i j : Nat} (hij : i ≤ j) (hj : j < counts.length)
    (hlow : -evLimit + j * step ≤ 0.1) : counts[i] ≤ counts[j] := by
  induction j, hij using Nat.le_induction with
  | base => exact le_rfl
  | succ j hij ih =>
    have hbelow : -evLimit + j * step ≤ 0.1 := by
      push_cast at hlow
      linarith
    exact (ih (by omega) hbelow).trans (le_succ_of_checked h hj hlow)

theorem le_of_checked_above (hstep : 0 ≤ step) {j k : Nat} (hjk : j ≤ k) (hk : k < counts.length)
    (hhigh : -0.1 ≤ -evLimit + j * step) : counts[k] ≤ counts[j] := by
  induction k, hjk using Nat.le_induction with
  | base => exact le_rfl
  | succ k hjk ih =>
    have hmul : (j : ℚ) * step ≤ k * step := mul_le_mul_of_nonneg_right (by exact_mod_cast hjk) hstep
    exact (succ_le_of_checked h hk (by linarith)).trans (ih (by omega))

/-- No row has fewer azimuths than a row on either side of it. -/
theorem le_between_of_checked (hstep : 0 ≤ step) {i j k : Nat} (hij : i ≤ j) (hjk : j ≤ k) (hk : k < counts.length) :
    counts[i] ≤ counts[j] ∨ counts[k] ≤ counts[j] := by
  by_cases hlow : -evLimit + j * step ≤ 0.1
  · exact .inl (le_of_checked_below h hstep hij (by omega) hlow)
  · refine .inr (le_of_checked_above h hstep hjk hk ?_)
    norm_num at hlow ⊢
    linarith

end Density

/-! ## Counts of a layout -/

/-- Every row of the layout has azimuths, no more than a row holds; at least half of the rows were
measured, and the rest have the counts of their mirror rows. -/
structure Usable (l : Layout ℚ) : Prop where
  start : 0 ≤ l.evStart ∧ 2 * l.evStart ≤ l.azCounts.length
  counts : ∀ row (h : row < l.azCounts.length), 1 ≤ l.azCounts[row] ∧ l.azCounts[row] ≤ maxAzimuths
  mirrored : ∀ row : Nat, row < l.evStart → l.azCounts[row]? = l.azCounts[l.azCounts.length - 1 - row]?

/-- The layout was made of usable rows in ascending order. -/
structure MadeOf (rows : List (ℚ × Nat)) (lowest highest step : ℚ) (intervals : Int) (measured : List Int)
    (l : Layout ℚ) : Prop extends Derived rows lowest highest step intervals measured l,
    Admitted lowest highest step intervals l where
  sorted : (rows.map Prod.fst).Pairwise (· ≤ ·)
  first : (rows.map Prod.fst).head? = some lowest
  last : (rows.map Prod.fst).getLast? = some highest
  azimuths : ∀ row ∈ rows, 1 ≤ row.2 ∧ row.2 ≤ maxAzimuths

theorem round_of_rowIndex {evLimit step elevation : ℚ} {index : Int} (hstep : step ≠ 0)
    (h : rowIndex evLimit step elevation = .ok index) : Scalar.round ((elevation + evLimit) / step) = .ok index := by
  unfold rowIndex at h
  rw [Exact.divide_eq _ hstep] at h
  exact except_mapError_ok (f := Fault.arithmetic (α := ℚ)) h

theorem rowIndex_mono {evLimit step lower upper : ℚ} {m n : Int} (hstep : 0 < step) (hle : lower ≤ upper)
    (hm : rowIndex evLimit step lower = .ok m) (hn : rowIndex evLimit step upper = .ok n) : m ≤ n := by
  refine Exact.round_mono ?_ (round_of_rowIndex hstep.ne' hm) (round_of_rowIndex hstep.ne' hn)
  rw [div_le_div_iff_of_pos_right hstep]
  linarith

section MadeOf

variable {rows : List (ℚ × Nat)} {lowest highest step : ℚ} {intervals : Int} {measured : List Int} {l : Layout ℚ}

theorem MadeOf.length_eq (h : MadeOf rows lowest highest step intervals measured l) :
    (l.azCounts.length : Int) = intervals + 1 := by
  have hsize := h.size.1
  rw [h.toDerived.length_azCounts]
  unfold minRows at hsize
  omega

theorem MadeOf.length_measured (h : MadeOf rows lowest highest step intervals measured l) :
    measured.length = l.azCounts.length := (mirrorCounts_ok h.mirrored).1.symm

/-- The index of a row lies below the end of the grid. -/
theorem MadeOf.exists_index (h : MadeOf rows lowest highest step intervals measured l) {row : ℚ × Nat}
    (hrow : row ∈ rows) : ∃ index, rowIndex l.evLimit step row.1 = .ok index ∧ index < l.azCounts.length := by
  rw [← h.length_measured, length_writeRows h.written]
  exact index_lt_of_writeRows h.written row hrow

/-- The topmost row has the last index. -/
theorem MadeOf.highest_index (h : MadeOf rows lowest highest step intervals measured l) :
    rowIndex l.evLimit step highest = .ok intervals := by
  obtain ⟨row, hrow, rfl⟩ := List.mem_map.1 (List.mem_of_getLast? h.last)
  obtain ⟨index, hindex, hlt⟩ := h.exists_index hrow
  have hpos := h.step_pos
  have hround := round_of_rowIndex hpos.ne' hindex
  have hlength := h.length_eq
  have hle : intervals ≤ index := by
    by_cases htop : row.1 ≤ 90
    · obtain ⟨k, hplaced⟩ := h.toDerived.placed h.sorted h.last htop
      rw [hplaced.size] at hlength
      obtain rfl : intervals = k := by omega
      refine Exact.round_mono ?_ (Exact.round_intCast (k : ℤ)) hround
      have hk := hplaced.intervals_pos
      rw [le_div_iff₀ hpos, hplaced.step_eq]
      push_cast
      rw [mul_div_cancel₀ _ hk.ne']
      linarith [hplaced.limit_near.1]
    · -- the grid ends at the pole, below the row
      have hlimit : l.evLimit = 90 := by
        rw [h.limit, if_pos]
        norm_num
        linarith
      refine Exact.round_mono ?_ h.count hround
      rw [div_le_div_iff_of_pos_right hpos, hlimit]
      linarith
  rwa [show index = intervals by omega] at hindex

/-- No row lies below the lowest one, which has the index of the start. -/
theorem MadeOf.start_le (h : MadeOf rows lowest highest step intervals measured l) {row : ℚ × Nat} (hrow : row ∈ rows)
    {index : Int} (hindex : rowIndex l.evLimit step row.1 = .ok index) : l.evStart ≤ index := by
  refine rowIndex_mono h.step_pos ?_ h.start hindex
  have hsorted := h.sorted
  have hfirst := h.first
  cases rows with
  | nil => cases hrow
  | cons first rest =>
    obtain rfl : first.1 = lowest := Option.some.inj hfirst
    rcases List.mem_cons.1 hrow with rfl | hrow
    · exact le_rfl
    · exact (List.pairwise_cons.1 hsorted).1 row.1 (List.mem_map_of_mem hrow)

theorem MadeOf.start_lt (h : MadeOf rows lowest highest step intervals measured l) :
    l.evStart < l.azCounts.length := by
  obtain ⟨row, hrow, hsame⟩ := List.mem_map.1 (List.mem_of_head? h.first)
  obtain ⟨index, hindex, hlt⟩ := h.exists_index hrow
  rw [hsame] at hindex
  rwa [Except.ok.inj (h.start.symm.trans hindex)]

/-! ## Written and mirrored -/

/-- With the start on the grid, a place holds the count of a row, or zero if no row has its index. -/
theorem MadeOf.measured_place (h : MadeOf rows lowest highest step intervals measured l) (hstart : 0 ≤ l.evStart)
    {place : Nat} (hplace : place < l.azCounts.length) :
    (∃ row ∈ rows, rowIndex l.evLimit step row.1 = .ok (place : Int) ∧ measured[place]? = some (row.2 : Int)) ∨
      (∀ row ∈ rows, rowIndex l.evLimit step row.1 ≠ .ok (place : Int)) ∧ measured[place]? = some 0 := by
  have hnonneg : ∀ row ∈ rows, ∀ index, rowIndex l.evLimit step row.1 = .ok index → 0 ≤ index :=
    fun row hrow index hindex => hstart.trans (h.start_le hrow hindex)
  have hsize : measured.length = (intervals + 1).toNat := by
    rw [length_writeRows h.written, List.length_replicate]
  rcases writeRows_place h.written hnonneg place with hwritten | ⟨hfree, hkept⟩
  · exact .inl hwritten
  · refine .inr ⟨hfree, ?_⟩
    rw [hkept, List.getElem?_replicate, if_pos]
    rw [← hsize, h.length_measured]
    exact hplace

/-- The place that some row's index names holds a count of azimuths. -/
theorem MadeOf.measured_pos (h : MadeOf rows lowest highest step intervals measured l) (hstart : 0 ≤ l.evStart)
    {elevation : ℚ} (hmem : elevation ∈ rows.map Prod.fst) {place : Nat}
    (hindex : rowIndex l.evLimit step elevation = .ok (place : Int)) :
    ∃ count : Int, measured[place]? = some count ∧ 1 ≤ count := by
  obtain ⟨row, hrow, rfl⟩ := List.mem_map.1 hmem
  obtain ⟨index, hindex', hlt⟩ := h.exists_index hrow
  obtain rfl : (place : Int) = index := Except.ok.inj (hindex.symm.trans hindex')
  rcases h.measured_place hstart (show place < l.azCounts.length by omega) with ⟨other, hother, -, hcount⟩ | ⟨hfree, -⟩
  · have hazimuths := h.azimuths other hother
    exact ⟨other.2, hcount, by omega⟩
  · exact absurd hindex (hfree row hrow)

theorem MadeOf.measured_le (h : MadeOf rows lowest highest step intervals measured l) (hstart : 0 ≤ l.evStart)
    {place : Nat} (hplace : place < l.azCounts.length) :
    ∃ count : Int, measured[place]? = some count ∧ 0 ≤ count ∧ count ≤ maxAzimuths := by
  rcases h.measured_place hstart hplace with ⟨row, hrow, -, hcount⟩ | ⟨-, hcount⟩
  · have hazimuths := h.azimuths row hrow
    exact ⟨row.2, hcount, by omega, by omega⟩
  · exact ⟨0, hcount, le_rfl, by decide⟩

theorem MadeOf.measured_below (h : MadeOf rows lowest highest step intervals measured l) (hstart : 0 ≤ l.evStart)
    {place : Nat} (hplace : place < l.azCounts.length) (hlow : place < l.evStart) : measured[place]? = some 0 := by
  rcases h.measured_place hstart hplace with ⟨row, hrow, hindex, -⟩ | ⟨-, hcount⟩
  · exact absurd (h.start_le hrow hindex) (not_le.2 hlow)
  · exact hcount

theorem MadeOf.azCounts_high (h : MadeOf rows lowest highest step intervals measured l) {place : Nat}
    (hhigh : l.evStart ≤ place) : l.azCounts[place]? = measured[place]? := by
  have hdrop := congrArg (·[place - l.evStart.toNat]?) (mirrorCounts_ok h.mirrored).2
  simp only [List.getElem?_drop] at hdrop
  rwa [show 0 + l.evStart.toNat + (place - l.evStart.toNat) = place by omega] at hdrop

theorem MadeOf.azCounts_low (h : MadeOf rows lowest highest step intervals measured l) {place : Nat}
    (hlow : place < l.evStart) (hhalf : 2 * place < l.azCounts.length) :
    l.azCounts[place]? = measured[l.azCounts.length - 1 - place]? := by
  rw [← h.length_measured] at hhalf ⊢
  exact mirrorCounts_low h.mirrored place (Nat.zero_le _) (by omega) hhalf

/-- The lowest and the highest row of the grid have azimuths: they were measured, or the lowest has the
count of the highest. -/
theorem MadeOf.ends_pos (h : MadeOf rows lowest highest step intervals measured l) (hstart : 0 ≤ l.evStart) :
    ∃ first last : Int, l.azCounts[0]? = some first ∧ 1 ≤ first ∧ l.azCounts[l.azCounts.length - 1]? = some last ∧
      1 ≤ last := by
  obtain ⟨start, hnat⟩ := Int.eq_ofNat_of_zero_le hstart
  have hstartLt := h.start_lt
  have htop : intervals = ((l.azCounts.length - 1 : Nat) : Int) := by
    have hlength := h.length_eq
    omega
  have hhighest := h.highest_index
  rw [htop] at hhighest
  obtain ⟨last, hlast, hlastPos⟩ := h.measured_pos hstart (List.mem_of_getLast? h.last) hhighest
  have hlast' : l.azCounts[l.azCounts.length - 1]? = some last := by
    rw [h.azCounts_high (by omega), hlast]
  by_cases hzero : start = 0
  · have hindex := h.start
    rw [hnat, hzero] at hindex
    obtain ⟨first, hfirst, hfirstPos⟩ := h.measured_pos hstart (List.mem_of_head? h.first) hindex
    exact ⟨first, last, by rw [h.azCounts_high (by omega), hfirst], hfirstPos, hlast', hlastPos⟩
  · refine ⟨last, last, ?_, hlastPos, hlast', hlastPos⟩
    rw [h.azCounts_low (by omega) (by omega), Nat.sub_zero, hlast]

/-- With the start on the grid, the layout is one that a data set can hold. -/
theorem MadeOf.usable (h : MadeOf rows lowest highest step intervals measured l) (hstart : 0 ≤ l.evStart) :
    l.Usable := by
  obtain ⟨first, last, hfirst, hfirstPos, hlast, hlastPos⟩ := h.ends_pos hstart
  have hpos : ∀ place (hplace : place < l.azCounts.length), 1 ≤ l.azCounts[place] := by
    intro place hplace
    obtain ⟨_, hfirst⟩ := List.getElem?_eq_some_iff.1 hfirst
    obtain ⟨hlt, hlast⟩ := List.getElem?_eq_some_iff.1 hlast
    rcases le_between_of_checked h.density h.step_pos.le (Nat.zero_le place) (show place ≤ _ by omega) hlt with
      hle | hle
    · omega
    · omega
  have hhalf : 2 * l.evStart ≤ l.azCounts.length := by
    by_contra hgt
    -- the first row above the lower half that was not measured would have been copied as it was
    obtain ⟨start, hnat⟩ := Int.eq_ofNat_of_zero_le hstart
    have hstartLt := h.start_lt
    have hlt : l.azCounts.length - start < l.azCounts.length := by omega
    have hcopied := h.azCounts_low (show ((l.azCounts.length - start : Nat) : Int) < l.evStart by omega) (by omega)
    rw [h.measured_below hstart (by omega) (by omega), List.getElem?_eq_getElem hlt] at hcopied
    have hcount := hpos _ hlt
    rw [Option.some.inj hcopied] at hcount
    omega
  have hmeasured : ∀ place (hplace : place < l.azCounts.length), ∃ source < l.azCounts.length,
      l.azCounts[place]? = measured[source]? := by
    intro place hplace
    by_cases hhigh : l.evStart ≤ place
    · exact ⟨place, hplace, h.azCounts_high hhigh⟩
    · exact ⟨l.azCounts.length - 1 - place, by omega, h.azCounts_low (by omega) (by omega)⟩
  refine ⟨⟨hstart, hhalf⟩, fun place hplace => ⟨hpos place hplace, ?_⟩, fun place hlow => ?_⟩
  · obtain ⟨source, hsource, hsame⟩ := hmeasured place hplace
    obtain ⟨count, hcount, -, hle⟩ := h.measured_le hstart hsource
    rw [hcount, List.getElem?_eq_getElem hplace] at hsame
    rw [Option.some.inj hsame]
    exact hle
  · have hhigh : l.evStart ≤ (l.azCounts.length - 1 - place : Nat) := by omega
    rw [h.azCounts_low hlow (by omega), h.azCounts_high hhigh]

/-- Rows two tenths of a degree apart or more are told apart from the grid's lowest. -/
theorem MadeOf.start_nonneg (h : MadeOf rows lowest highest step intervals measured l) (htop : highest ≤ 90)
    (hwide : 0.2 ≤ l.step) : 0 ≤ l.evStart := by
  obtain ⟨k, hplaced⟩ := h.toDerived.placed h.sorted h.last htop
  have hpos := h.step_pos
  have hk := hplaced.intervals_pos
  have hstep : 0.2 ≤ step := by
    have hlayout := hplaced.layout_step
    rw [hplaced.step_eq]
    rcases hplaced.limit with hlimit | ⟨-, hpole, -⟩
    · rwa [← hlimit, ← hlayout]
    · have hk' := hplaced.intervals_le
      rw [le_div_iff₀ hk]
      norm_num at hpole ⊢
      linarith
  have hlowest : -highest - 0.1 ≤ lowest := by
    have hfirst := h.first
    have hnear := hplaced.near
    have hroom := hplaced.room
    cases rows with
    | nil => cases hfirst
    | cons first rest =>
      obtain rfl : first.1 = lowest := Option.some.inj hfirst
      have hfirstNear := (abs_le.1 (hnear 0 (Nat.succ_pos _))).1
      have hbelow : (0 : ℚ) ≤ ((k + 1 - (first :: rest).length + 0 : Nat) : ℚ) * step :=
        mul_nonneg (Nat.cast_nonneg _) hpos.le
      rw [List.getElem_cons_zero] at hfirstNear
      linarith
  have hhalf : (-1 / 2 : ℚ) ≤ (lowest + l.evLimit) / step := by
    rw [le_div_iff₀ hpos]
    have hlimit := hplaced.limit_near.1
    norm_num at hlowest hstep ⊢
    linarith
  exact Exact.round_mono hhalf (by decide +kernel) (round_of_rowIndex hpos.ne' h.start)

end MadeOf

/-! ## Detected layouts -/

theorem sublist_ofShells {positions : List (Spherical ℚ)} : ∀ {distances : List ℚ} {layouts : List (Layout ℚ)},
    (ofShells positions distances).2 = .ok layouts → (layouts.map (·.distance)).Sublist distances
  | [], layouts, h => by
    cases h
    exact List.Sublist.refl _
  | distance :: distances, layouts, h => by
    unfold ofShells at h
    simp only at h
    split at h
    · cases h
    · rename_i found hfound
      obtain ⟨later, hlater, rfl⟩ := except_map_ok h
      have hrest := sublist_ofShells hlater
      cases found with
      | none => exact hrest.cons distance
      | some l =>
        rw [← (ofShell_some hfound).1]
        exact hrest.cons_cons l.distance

theorem madeOf_of_detect {positions : List (Spherical ℚ)} {layouts : List (Layout ℚ)}
    (h : (detect positions).2 = .ok layouts) {l : Layout ℚ} (hl : l ∈ layouts) :
    ∃ rows lowest highest step intervals measured, MadeOf rows lowest highest step intervals measured l ∧
      ∃ p ∈ positions, p.elevation = highest := by
  obtain ⟨-, rows, lowest, highest, step, intervals, measured, hfound, hfirst, hlast, hderived, hadmitted⟩ :=
    ofShell_some (mem_detect h hl)
  refine ⟨rows, lowest, highest, step, intervals, measured,
    ⟨hderived, hadmitted, pairwise_usableRows hfound, hfirst, hlast, fun row hrow => ?_⟩, ?_⟩
  · rcases judgeShell_usable (usable_of_mem hfound row hrow) with ⟨-, hone⟩ | ⟨-, hcount⟩
    · rw [hone]
      decide
    · obtain ⟨htwo, hmax⟩ := (azimuthCount?_ok hcount).1
      exact ⟨by omega, hmax⟩
  · obtain ⟨p, hp, hsame⟩ := exists_position_of_usableRows hfound (List.mem_of_getLast? hlast)
    obtain ⟨q, hq, rfl⟩ := List.mem_map.1 hp
    exact ⟨q, hq, (foldSeam_elevation q).symm.trans hsame⟩

/-- Detected layouts are no more than a data set holds, in order of distances that are told apart, and
each has a number of rows that a field can have. A layout whose start is on the grid has azimuths in
every row, and at least half of its rows measured; the start is on the grid wherever the rows are two
tenths of a degree apart. -/
theorem detect_usable {positions : List (Spherical ℚ)} {layouts : List (Layout ℚ)}
    (h : (detect positions).2 = .ok layouts) :
    layouts.length ≤ maxFields ∧ layouts.Pairwise (fun l other => l.distance + 0.001 < other.distance) ∧
      ∀ l ∈ layouts, (minRows ≤ l.azCounts.length ∧ l.azCounts.length ≤ maxRows) ∧ (l.Usable ↔ 0 ≤ l.evStart) ∧
        ((∀ p ∈ positions, |p.elevation| ≤ 90) → 0.2 ≤ l.step → 0 ≤ l.evStart) := by
  obtain ⟨distances, hdistances, hcount, hshells⟩ := detect_ok h
  have hsub := sublist_ofShells hshells
  refine ⟨?_, ?_, fun l hl => ?_⟩
  · have hle := hsub.length_le
    rw [List.length_map] at hle
    exact hle.trans hcount
  · have happart : distances.Pairwise fun x y => x + 0.001 < y := by
      rw [hdistances]
      exact Cluster.pairwise_distinct_apart (by norm_num) _
    exact List.pairwise_map.1 (happart.sublist hsub)
  · obtain ⟨rows, lowest, highest, step, intervals, measured, hmade, p, hp, rfl⟩ := madeOf_of_detect h hl
    have hsize := hmade.size
    have hlength := hmade.length_eq
    refine ⟨by omega, ⟨fun husable => husable.start.1, hmade.usable⟩, fun hproper hwide => ?_⟩
    exact hmade.start_nonneg (abs_le.1 (hproper p hp)).2 hwide

/-- Two points of the horizon and the upper pole. -/
def domePositions : List (Spherical ℚ) := [⟨0, 0, 1⟩, ⟨180, 0, 1⟩, ⟨0, 90, 1⟩]

/-- The lower pole is not measured. -/
def domeLayout : Layout ℚ := { distance := 1, evLimit := 90, evStart := 1, azCounts := [1, 2, 1] }

theorem detect_domePositions : (detect domePositions).2 = .ok [domeLayout] := by
  have hrows : HasRows (domePositions.map foldSeam) 1 domeLayout.foundRows := by
    constructor <;> simp only [Cluster.along_eq_insertionSort] <;> decide +kernel
  refine detect_of_hasRows (List.cons_ne_nil _ _) (by decide) ?_ fun l hl => ?_
  · rw [Cluster.along_eq_insertionSort]
    decide +kernel
  · obtain rfl := List.mem_singleton.1 hl
    exact ⟨by constructor <;> decide +kernel, hrows⟩

theorem detect_usable_dome : (detect domePositions).2 = .ok [domeLayout] ∧ domeLayout.Usable ∧
    ((∀ p ∈ domePositions, |p.elevation| ≤ 90) → 0.2 ≤ domeLayout.step → 0 ≤ domeLayout.evStart) := by
  obtain ⟨-, -, hlayouts⟩ := detect_usable detect_domePositions
  obtain ⟨-, husable, hwide⟩ := hlayouts domeLayout List.mem_cons_self
  exact ⟨detect_domePositions, husable.2 (by decide), hwide⟩

/-! ## Below the grid -/

/-- Three rows of two points, the lowest more than half a step below the grid of the others. -/
def lowPositions : List (Spherical ℚ) :=
  [⟨0, -1 / 5, 1⟩, ⟨180, -1 / 5, 1⟩, ⟨0, -1 / 20, 1⟩, ⟨180, -1 / 20, 1⟩, ⟨0, 3 / 25, 1⟩, ⟨180, 3 / 25, 1⟩]

def lowRows : List (ℚ × Nat) := [(-1 / 5, 2), (-1 / 20, 2), (3 / 25, 2)]

/-- The lowest row has the index before zero, which is the last one, and no row has index zero. -/
def lowLayout : Layout ℚ := { distance := 1, evLimit := 3 / 25, evStart := -1, azCounts := [0, 2, 2] }

theorem ofRows_lowRows : ofRows 1 lowRows (-1 / 5) (3 / 25) = .ok lowLayout := by
  have hstep : elevationStep? angleTolerance (lowRows.map Prod.fst) = .ok (some (3 / 25 : ℚ)) := by
    unfold elevationStep?
    rw [mergeSort_descending (by decide +kernel)]
    decide +kernel
  unfold ofRows
  simp only [hstep]
  decide +kernel

/-- The layout starts below its grid, and its lowest row is left without azimuths. -/
theorem detect_lowPositions : (detect lowPositions).2 = .ok [lowLayout] ∧ ¬ lowLayout.Usable := by
  have hrows : HasRows (lowPositions.map foldSeam) 1 lowRows := by
    constructor <;> simp only [Cluster.along_eq_insertionSort] <;> decide +kernel
  have hdistances :
      Cluster.along .distance ⟨none, none, none⟩ Cluster.tolerances (lowPositions.map foldSeam) = [1] := by
    rw [Cluster.along_eq_insertionSort]
    decide +kernel
  have hshell : ofShell 1 (judgeShell (lowPositions.map foldSeam) 1) = .ok (some lowLayout) := by
    rw [hrows.judgeShell_eq]
    unfold ofShell
    rw [usableRows_usable]
    show (ofRows 1 lowRows (-1 / 5) (3 / 25) >>= fun layout => pure (some layout)) = _
    rw [ofRows_lowRows]
    rfl
  refine ⟨?_, fun husable => absurd husable.start.1 (by decide)⟩
  have hshells : (ofShells (lowPositions.map foldSeam) [1]).2 = .ok [lowLayout] := by
    unfold ofShells
    simp only [hshell]
    rfl
  rw [detect_of_shells hdistances (by decide) (List.cons_ne_nil _ _) (Prod.ext rfl hshells)]

end HrirAtlas.Layout
