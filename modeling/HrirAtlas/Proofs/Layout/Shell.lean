import HrirAtlas.Proofs.Exact.Rounding
import HrirAtlas.Proofs.Layout.Counts
import HrirAtlas.Proofs.Layout.Fit
import HrirAtlas.Proofs.Layout.Sampled

/-
What a detected layout says about the positions it was detected in. Its usable rows are near the
rows of the grid that it describes, each at the index and with the count that detection gave it, and
the positions of a row are near the columns of the row. All of it holds up to the tolerances, since
a row is known by its lowest elevation and a column by its lowest azimuth.
-/

namespace HrirAtlas.Layout

/-! ## Rows of a shell -/

theorem judgeRow_usable {distance elevation found : ℚ} {azimuths : List ℚ} {count : Nat}
    (h : judgeRow distance elevation azimuths = .usable found count) :
    found = elevation ∧ (89.999 < |elevation| ∧ count = 1 ∨
      |elevation| ≤ 89.999 ∧ azimuthCount? angleTolerance azimuths = .ok (some count)) := by
  unfold judgeRow at h
  rw [Exact.abs_eq, poleElevation_eq] at h
  split at h
  · rename_i hpole
    split at h
    · cases h; exact ⟨rfl, .inl ⟨hpole, rfl⟩⟩
    · cases h
  rename_i hpole
  split at h
  · cases h
  split at h
  · rename_i hcount
    cases h
    exact ⟨rfl, .inr ⟨not_lt.1 hpole, hcount⟩⟩
  · cases h
  · cases h

/-- A usable row of a shell is a pole, or its azimuths were counted. -/
theorem judgeShell_usable {positions : List (Spherical ℚ)} {distance elevation : ℚ} {azimuths : Nat}
    (h : .usable elevation azimuths ∈ judgeShell positions distance) :
    89.999 < |elevation| ∧ azimuths = 1 ∨ |elevation| ≤ 89.999 ∧
      azimuthCount? angleTolerance (Cluster.along .azimuth ⟨none, some elevation, some distance⟩ Cluster.tolerances
        positions) = .ok (some azimuths) := by
  obtain ⟨found, -, hjudge⟩ := List.mem_map.1 h
  obtain ⟨rfl, hcases⟩ := judgeRow_usable hjudge
  exact hcases

theorem mem_usableRows : ∀ {verdicts : List (RowVerdict ℚ)} {rows : List (ℚ × Nat)}, usableRows verdicts = .ok rows →
    ∀ {elevation : ℚ} {azimuths : Nat}, .usable elevation azimuths ∈ verdicts → (elevation, azimuths) ∈ rows
  | .usable found count :: verdicts, rows, h, elevation, azimuths, hmem => by
    obtain ⟨rest, hrest, rfl⟩ := except_map_ok h
    rcases List.mem_cons.1 hmem with heq | hmem
    · cases heq; exact List.mem_cons_self
    · exact List.mem_cons_of_mem _ (mem_usableRows hrest hmem)
  | .stray found count :: verdicts, rows, h, elevation, azimuths, hmem => by
    rcases List.mem_cons.1 hmem with heq | hmem
    · cases heq
    · have hrest : usableRows verdicts = .ok rows := h
      exact mem_usableRows hrest hmem
  | .faulty cause :: verdicts, rows, h, elevation, azimuths, hmem => by cases h

theorem usable_of_mem : ∀ {verdicts : List (RowVerdict ℚ)} {rows : List (ℚ × Nat)}, usableRows verdicts = .ok rows →
    ∀ row ∈ rows, .usable row.1 row.2 ∈ verdicts
  | [], rows, h, row, hrow => by
    cases h
    exact absurd hrow List.not_mem_nil
  | .usable elevation azimuths :: verdicts, rows, h, row, hrow => by
    obtain ⟨rest, hrest, rfl⟩ := except_map_ok h
    rcases List.mem_cons.1 hrow with rfl | hrow
    · exact List.mem_cons_self
    · exact List.mem_cons_of_mem _ (usable_of_mem hrest row hrow)
  | .stray elevation azimuths :: verdicts, rows, h, row, hrow => by
    have hrest : usableRows verdicts = .ok rows := h
    exact List.mem_cons_of_mem _ (usable_of_mem hrest row hrow)

theorem sublist_usableRows {judge : ℚ → RowVerdict ℚ}
    (hjudge : ∀ {elevation found count}, judge elevation = .usable found count → found = elevation) :
    ∀ {elevations : List ℚ} {rows : List (ℚ × Nat)}, usableRows (elevations.map judge) = .ok rows →
      (rows.map Prod.fst).Sublist elevations
  | [], rows, h => by cases h; exact List.Sublist.refl _
  | elevation :: elevations, rows, h => by
    rw [List.map_cons] at h
    cases hverdict : judge elevation with
    | usable found count =>
      rw [hverdict] at h
      obtain ⟨rest, hrest, rfl⟩ := except_map_ok h
      rw [List.map_cons, hjudge hverdict]
      exact (sublist_usableRows hjudge hrest).cons_cons elevation
    | stray found count =>
      rw [hverdict] at h
      have hrest : usableRows (elevations.map judge) = .ok rows := h
      exact (sublist_usableRows hjudge hrest).cons elevation
    | faulty cause =>
      rw [hverdict] at h
      cases h

/-- The usable rows stand in ascending order and are told apart. -/
theorem apart_usableRows {positions : List (Spherical ℚ)} {distance : ℚ} {rows : List (ℚ × Nat)}
    (h : usableRows (judgeShell positions distance) = .ok rows) :
    (rows.map Prod.fst).Pairwise fun x y => x + 0.1 < y := by
  unfold judgeShell at h
  exact (Cluster.pairwise_distinct_apart (show (0 : ℚ) ≤ 0.1 by norm_num) _).sublist
    (sublist_usableRows (fun hverdict => (judgeRow_usable hverdict).1) h)

theorem pairwise_usableRows {positions : List (Spherical ℚ)} {distance : ℚ} {rows : List (ℚ × Nat)}
    (h : usableRows (judgeShell positions distance) = .ok rows) : (rows.map Prod.fst).Pairwise (· ≤ ·) := by
  refine (apart_usableRows h).imp fun {x y} hxy => ?_
  norm_num at hxy
  linarith

theorem mem_of_mem_along {positions : List (Spherical ℚ)} {axis : Axis} {filters : PerAxis (Option ℚ)} {v : ℚ}
    (h : v ∈ Cluster.along axis filters Cluster.tolerances positions) :
    ∃ p ∈ positions, Cluster.matchesAll Cluster.tolerances filters p = true ∧ axis.of p = v :=
  (mem_along axis filters positions v).1 (List.mem_mergeSort.1 ((Cluster.ofSorted_sublist _ _).subset h))

/-- A usable row stands at the elevation of a position. -/
theorem exists_position_of_usableRows {positions : List (Spherical ℚ)} {distance elevation : ℚ} {rows : List (ℚ × Nat)}
    (h : usableRows (judgeShell positions distance) = .ok rows) (hmem : elevation ∈ rows.map Prod.fst) :
    ∃ p ∈ positions, p.elevation = elevation := by
  obtain ⟨p, hp, -, hsame⟩ :=
    mem_of_mem_along ((sublist_usableRows (fun hverdict => (judgeRow_usable hverdict).1) h).subset hmem)
  exact ⟨p, hp, hsame⟩

/-! ## The grid of a shell -/

/-- The steps by which usable rows became a layout. -/
structure Derived (rows : List (ℚ × Nat)) (lowest highest step : ℚ) (intervals : Int) (measured : List Int)
    (l : Layout ℚ) : Prop where
  division : elevationStep? angleTolerance (rows.map Prod.fst) = .ok (some step)
  limit : l.evLimit = if 89.999 < highest then 90 else highest
  count : Scalar.round (2 * l.evLimit / step) = .ok intervals
  written : writeRows l.evLimit step rows (List.replicate (intervals + 1).toNat 0) = .ok measured
  start : rowIndex l.evLimit step lowest = .ok l.evStart
  mirrored : (mirrorCounts 0 l.evStart.toNat measured : Except (Fault ℚ) (List Int)) = .ok l.azCounts

/-- The tests that a layout passed. -/
structure Admitted (lowest highest step : ℚ) (intervals : Int) (l : Layout ℚ) : Prop where
  above : 0 < highest
  below : lowest ≤ 0.1
  step_pos : 0 < step
  size : (minRows : Int) ≤ intervals + 1 ∧ intervals + 1 ≤ maxRows
  density : checkDensity l.azCounts l.evLimit step l.distance = .ok ()

theorem ofRows_ok {distance lowest highest : ℚ} {rows : List (ℚ × Nat)} {l : Layout ℚ}
    (h : ofRows distance rows lowest highest = .ok l) :
    l.distance = distance ∧ ∃ step intervals measured, Derived rows lowest highest step intervals measured l ∧
      Admitted lowest highest step intervals l := by
  unfold ofRows at h
  obtain ⟨habove, h⟩ := except_guard_ok h
  obtain ⟨-, h⟩ := except_guard_ok h
  obtain ⟨found, hfound, h⟩ := except_bind_ok h
  cases found with
  | none => cases h
  | some step =>
    have hstep : ¬ step ≤ (0.0 : ℚ) := fun hle => by
      simp only [if_pos hle] at h
      cases h
    simp only [if_neg hstep, pure_bind] at h
    have hlimit : (if highest > poleElevation then (90.0 : ℚ) else highest) =
        if 89.999 < highest then 90 else highest := by
      rw [poleElevation_eq]
      norm_num
    have hstep' : step ≠ 0 := by
      rintro rfl
      exact hstep (by norm_num)
    rw [hlimit, Exact.divide_eq _ hstep'] at h
    obtain ⟨ratio, hratio, h⟩ := except_bind_ok h
    cases hratio
    obtain ⟨intervals, hcount, h⟩ := except_bind_ok h
    obtain ⟨hmin, h⟩ := except_guard_ok h
    obtain ⟨hmax, h⟩ := except_guard_ok h
    obtain ⟨hbelow, h⟩ := except_guard_ok h
    obtain ⟨measured, hwritten, h⟩ := except_bind_ok h
    obtain ⟨evStart, hstart, h⟩ := except_bind_ok h
    obtain ⟨azCounts, hmirrored, h⟩ := except_bind_ok h
    obtain ⟨_, hdensity, h⟩ := except_bind_ok h
    cases h
    have htwo : (2.0 : ℚ) = 2 := by norm_num
    have hzero : (0.0 : ℚ) = 0 := by norm_num
    rw [htwo] at hcount
    rw [hzero, not_le] at habove hstep
    exact ⟨rfl, step, intervals, measured,
      ⟨except_mapError_ok hfound, rfl, except_mapError_ok hcount, hwritten, hstart, hmirrored⟩,
      ⟨habove, not_lt.1 hbelow, hstep, ⟨not_lt.1 hmin, not_lt.1 hmax⟩, except_mapError_ok hdensity⟩⟩

/-! ## Estimates -/

/-- The grid that ends at the topmost row lies near the one that ends at the pole, where the
topmost row is taken for the pole. -/
theorem near_of_limit {top limit elevation tolerance : ℚ} {k row : Nat} (hk : 0 < k) (hrow : row ≤ k)
    (hlimit : top ≤ limit) (h : |elevation - (-top + row * (2 * top / k))| ≤ tolerance) :
    |elevation - (-limit + row * (2 * limit / k))| ≤ tolerance + (limit - top) := by
  have hk' : (0 : ℚ) < k := by exact_mod_cast hk
  have hratio : (row : ℚ) / k ≤ 1 := by
    rw [div_le_one hk']
    exact_mod_cast hrow
  have hpos : 0 ≤ (row : ℚ) / k := by positivity
  have hsplit : elevation - (-limit + row * (2 * limit / k)) =
      elevation - (-top + row * (2 * top / k)) + (limit - top) * (1 - 2 * (row / k)) := by ring
  have hfactor : |1 - 2 * ((row : ℚ) / k)| ≤ 1 := by rw [abs_le]; constructor <;> linarith
  calc |elevation - (-limit + row * (2 * limit / k))|
      ≤ |elevation - (-top + row * (2 * top / k))| + |(limit - top) * (1 - 2 * (row / k))| := by
        rw [hsplit]; exact abs_add_le _ _
    _ ≤ tolerance + (limit - top) := by
        rw [abs_mul, abs_of_nonneg (sub_nonneg.2 hlimit)]
        exact add_le_add h (mul_le_of_le_one_right (sub_nonneg.2 hlimit) hfactor)

/-- An elevation near a row is a whole number of steps above the lowest one, up to less than a half. -/
theorem steps_near {top limit elevation step : ℚ} {row : Nat} (hstep : 0.21 < step) (hlimit : |limit - top| ≤ 0.001)
    (h : |elevation - (-top + row * step)| ≤ 0.1) : |(elevation + limit) / step - ((row : ℤ) : ℚ)| < 1 / 2 := by
  have hpos : 0 < step := lt_trans (by norm_num) hstep
  have hsplit : (elevation + limit) / step - ((row : ℤ) : ℚ) =
      (elevation - (-top + row * step) + (limit - top)) / step := by
    field_simp; push_cast; ring
  rw [hsplit, abs_div, abs_of_pos hpos, div_lt_iff₀ hpos]
  calc |elevation - (-top + row * step) + (limit - top)| ≤ 0.1 + 0.001 :=
        (abs_add_le _ _).trans (add_le_add h hlimit)
    _ < 1 / 2 * step := by norm_num at hstep ⊢; linarith

/-- The pole is so near the topmost row that a grid that ends there has as many steps. -/
theorem round_steps {top limit : ℚ} {k : Nat} (hk : 0 < k ∧ k ≤ 180) (hpos : 0 < top)
    (hlimit : limit = top ∨ limit = 90 ∧ 89.999 < top ∧ top ≤ 90) :
    Scalar.round (2 * limit / (2 * top / k)) = .ok (k : ℤ) := by
  have hk0 : (0 : ℚ) < k := by exact_mod_cast hk.1
  have hk' : (k : ℚ) ≤ 180 := by exact_mod_cast hk.2
  have hsplit : 2 * limit / (2 * top / k) - ((k : ℤ) : ℚ) = k * (limit - top) / top := by
    field_simp; push_cast; ring
  refine Exact.round_of_near ?_
  rw [hsplit, abs_div, abs_of_pos hpos, div_lt_iff₀ hpos]
  rcases hlimit with heq | ⟨heq, hpole, htop⟩
  · rw [heq, sub_self, mul_zero, abs_zero]; positivity
  · rw [heq, abs_of_nonneg (mul_nonneg hk0.le (by linarith))]
    norm_num at hpole
    nlinarith

/-! ## Rows of a layout -/

/-- The rows of a shell lie on the highest rows of a grid of `k` steps that ends at `top`, and the
layout is that grid, or the one that ends at the pole. -/
structure Placed (rows : List (ℚ × Nat)) (top step : ℚ) (k : Nat) (l : Layout ℚ) : Prop where
  bounds : 0 < k ∧ k ≤ 180
  room : rows.length ≤ k + 1
  size : l.azCounts.length = k + 1
  pos : 0 < top
  limit : l.evLimit = top ∨ l.evLimit = 90 ∧ 89.999 < top ∧ top ≤ 90
  step_eq : step = 2 * top / k
  near : ∀ i (h : i < rows.length), |rows[i].1 - (-top + (k + 1 - rows.length + i : Nat) * step)| ≤ 0.1

section Rows

variable {rows : List (ℚ × Nat)} {lowest top step : ℚ} {intervals : Int} {measured : List Int} {k : Nat} {l : Layout ℚ}

theorem Derived.length_azCounts (h : Derived rows lowest top step intervals measured l) :
    l.azCounts.length = (intervals + 1).toNat := by
  rw [(mirrorCounts_ok h.mirrored).1, length_writeRows h.written, List.length_replicate]

theorem Derived.placed (h : Derived rows lowest top step intervals measured l)
    (hsorted : (rows.map Prod.fst).Pairwise (· ≤ ·)) (hlast : (rows.map Prod.fst).getLast? = some top)
    (htop : top ≤ 90) : ∃ k, Placed rows top step k l := by
  obtain ⟨top', k, hlast', hpos, hbounds, hstep, hroom, hnear⟩ := elevationStep?_ok hsorted h.division
  obtain rfl : top' = top := Option.some.inj (hlast'.symm.trans hlast)
  have hlimit : l.evLimit = top' ∨ l.evLimit = 90 ∧ 89.999 < top' ∧ top' ≤ 90 := by
    rw [h.limit]
    split
    · rename_i hpole; exact .inr ⟨rfl, hpole, htop⟩
    · exact .inl rfl
  have hcount := h.count
  rw [hstep, round_steps hbounds hpos hlimit] at hcount
  obtain rfl : (k : ℤ) = intervals := Except.ok.inj hcount
  have hsize : l.azCounts.length = k + 1 := by
    rw [h.length_azCounts]
    omega
  rw [List.length_map] at hroom
  refine ⟨k, hbounds, hroom, hsize, hpos, hlimit, hstep, fun i hi => ?_⟩
  have := hnear i (by rw [List.length_map]; exact hi)
  simpa only [List.getElem_map, List.length_map, angleTolerance_eq] using this

theorem Placed.intervals_pos (h : Placed rows top step k l) : (0 : ℚ) < k := by exact_mod_cast h.bounds.1

theorem Placed.intervals_le (h : Placed rows top step k l) : (k : ℚ) ≤ 180 := by exact_mod_cast h.bounds.2

theorem Placed.layout_step (h : Placed rows top step k l) : l.step = 2 * l.evLimit / k := by
  unfold Layout.step
  rw [h.size, Nat.cast_add, Nat.cast_one, add_sub_cancel_right]

theorem Placed.limit_near (h : Placed rows top step k l) : top ≤ l.evLimit ∧ l.evLimit - top ≤ 0.001 := by
  rcases h.limit with heq | ⟨heq, hpole, htop⟩
  · rw [heq]; norm_num
  · rw [heq]; norm_num at hpole ⊢; exact ⟨htop, by linarith⟩

/-- Nine tenths of a step cover both tolerances, unless the rows are hardly told apart. -/
theorem Placed.margin_le (h : Placed rows top step k l) (hrows : 2 / 9 ≤ l.step) :
    0.2 + (l.evLimit - top) ≤ 0.9 * l.step := by
  rcases h.limit with heq | ⟨heq, hpole, -⟩
  · rw [heq]; norm_num; linarith
  · have hstep : 1 ≤ l.step := by
      have hk := h.intervals_le
      rw [h.layout_step, heq, le_div_iff₀ h.intervals_pos]
      linarith
    rw [heq]
    norm_num at hpole ⊢
    linarith

/-- A tenth of a wide step exceeds both tolerances. -/
theorem Placed.margin_lt (h : Placed rows top step k l) (hwide : 2 < l.step) :
    0.2 + (l.evLimit - top) < l.step / 10 := by
  rcases h.limit with heq | ⟨heq, hpole, -⟩
  · rw [heq]; norm_num; linarith
  · -- a grid up to the pole has whole numbers of steps only, so its step is above two by a margin
    have hk := h.intervals_pos
    have hstep := h.layout_step
    rw [heq] at hstep
    rw [hstep, lt_div_iff₀ hk] at hwide
    have hlt : k < 90 := by
      have : (k : ℚ) < 90 := by linarith
      exact_mod_cast this
    have hle : (k : ℚ) ≤ 89 := by exact_mod_cast (show k ≤ 89 by omega)
    rw [hstep, heq, div_div, lt_div_iff₀ (by positivity)]
    norm_num at hpole ⊢
    nlinarith

/-- The step that was found is hardly smaller than that of the layout: half of it exceeds the
tolerance of a row and the way to the pole. -/
theorem Placed.step_gt (h : Placed rows top step k l) (hrows : 2 / 9 ≤ l.step) : 0.21 < step := by
  have hk := h.intervals_pos
  have hk' := h.intervals_le
  rw [h.layout_step, le_div_iff₀ hk] at hrows
  rw [h.step_eq, lt_div_iff₀ hk]
  rcases h.limit with heq | ⟨heq, hpole, -⟩
  · rw [heq] at hrows; norm_num; linarith
  · norm_num at hpole ⊢; linarith

theorem Placed.rowIndex_eq (h : Placed rows top step k l) (hrows : 2 / 9 ≤ l.step) {i : Nat} (hi : i < rows.length) :
    rowIndex l.evLimit step rows[i].1 = .ok ((k + 1 - rows.length + i : Nat) : Int) := by
  have hstep := h.step_gt hrows
  have hlimit := h.limit_near
  have hnear := steps_near hstep (by rw [abs_of_nonneg (sub_nonneg.2 hlimit.1)]; exact hlimit.2) (h.near i hi)
  unfold rowIndex
  rw [Exact.divide_eq _ (lt_trans (by norm_num) hstep).ne']
  show (Scalar.round ((rows[i].1 + l.evLimit) / step)).mapError Fault.arithmetic = _
  rw [Exact.round_of_near hnear]
  rfl

/-- The rows of a shell have their counts in the layout. -/
theorem Derived.azCounts_drop (h : Derived rows lowest top step intervals measured l) (hp : Placed rows top step k l)
    (hrows : 2 / 9 ≤ l.step) (hlowest : (rows.map Prod.fst).head? = some lowest) :
    l.azCounts.drop (k + 1 - rows.length) = rows.map fun row => (row.2 : Int) := by
  have hroom := hp.room
  have hsize : (intervals + 1).toNat = k + 1 := by rw [← h.length_azCounts, hp.size]
  have hwritten := writeRows_consecutive rows (k + 1 - rows.length) (List.replicate (intervals + 1).toNat 0)
    (by rw [List.length_replicate]; omega) fun i hi => hp.rowIndex_eq hrows hi
  rw [h.written] at hwritten
  have hstart : l.evStart = ((k + 1 - rows.length : Nat) : Int) := by
    cases rows with
    | nil => cases hlowest
    | cons first rest =>
      obtain rfl : first.1 = lowest := Option.some.inj hlowest
      have := hp.rowIndex_eq hrows (i := 0) (by rw [List.length_cons]; omega)
      exact Except.ok.inj (h.start.symm.trans this)
  have hdrop := (mirrorCounts_ok h.mirrored).2
  rw [hstart, Int.toNat_natCast, Nat.zero_add] at hdrop
  rw [hdrop, Except.ok.inj hwritten]
  refine List.drop_left' ?_
  rw [List.length_take, List.length_replicate]
  omega

/-- Each row stands at the row of the layout that its index names: no other row of the layout is in
reach of a window around it, and this one is wherever a step is wide. -/
theorem Derived.exists_row (h : Derived rows lowest top step intervals measured l) (hp : Placed rows top step k l)
    (hrows : 2 / 9 ≤ l.step) (hlowest : (rows.map Prod.fst).head? = some lowest) {elevation : ℚ} {azimuths : Nat}
    (hmem : (elevation, azimuths) ∈ rows) :
    ∃ row : Nat, rowIndex l.evLimit step elevation = .ok (row : Int) ∧ l.azCounts[row]? = some (azimuths : Int) ∧
      |elevation - l.elevation row| + 0.1 ≤ 0.9 * l.step ∧
      (2 < l.step → |elevation - l.elevation row| + 0.1 < l.step / 10) := by
  obtain ⟨i, hi, hrow⟩ := List.mem_iff_getElem.1 hmem
  have hroom := hp.room
  have hindex := hp.rowIndex_eq hrows hi
  have hcount := congrArg (·[i]?) (h.azCounts_drop hp hrows hlowest)
  have hnear := hp.near i hi
  rw [hrow] at hindex hnear
  rw [hp.step_eq] at hnear
  have hgrid := near_of_limit hp.bounds.1 (by omega) hp.limit_near.1 hnear
  rw [← hp.layout_step] at hgrid
  change |elevation - l.elevation (k + 1 - rows.length + i)| ≤ 0.1 + (l.evLimit - top) at hgrid
  refine ⟨k + 1 - rows.length + i, hindex, ?_, ?_, fun hwide => ?_⟩
  · simpa only [List.getElem?_drop, List.getElem?_map, List.getElem?_eq_getElem hi, hrow, Option.map_some] using hcount
  · have := hp.margin_le hrows
    norm_num at this hgrid ⊢
    linarith
  · have := hp.margin_lt hwide
    norm_num at this hgrid ⊢
    linarith

end Rows

/-! ## Layouts of a detection -/

section Detected

variable {positions : List (Spherical ℚ)} {distance : ℚ} {l : Layout ℚ}

theorem ofShell_some {verdicts : List (RowVerdict ℚ)} (h : ofShell distance verdicts = .ok (some l)) :
    l.distance = distance ∧ ∃ rows lowest highest step intervals measured, usableRows verdicts = .ok rows ∧
      (rows.map Prod.fst).head? = some lowest ∧ (rows.map Prod.fst).getLast? = some highest ∧
      Derived rows lowest highest step intervals measured l ∧ Admitted lowest highest step intervals l := by
  unfold ofShell at h
  obtain ⟨rows, hrows, h⟩ := except_bind_ok h
  cases rows with
  | nil => cases h
  | cons first rest =>
    obtain ⟨found, hfound, h⟩ := except_bind_ok h
    cases h
    obtain ⟨hdistance, step, intervals, measured, hbuilt⟩ := ofRows_ok hfound
    refine ⟨hdistance, first :: rest, _, _, step, intervals, measured, hrows, rfl, ?_, hbuilt⟩
    rw [List.getLast?_map, List.getLast?_eq_some_getLast (List.cons_ne_nil _ _), Option.map_some]

theorem mem_ofShells : ∀ {distances : List ℚ} {layouts : List (Layout ℚ)},
    (ofShells positions distances).2 = .ok layouts → l ∈ layouts →
    ∃ distance, ofShell distance (judgeShell positions distance) = .ok (some l)
  | [], layouts, h, hl => by
    cases h
    exact absurd hl List.not_mem_nil
  | distance :: distances, layouts, h, hl => by
    unfold ofShells at h
    simp only at h
    split at h
    · cases h
    · rename_i found hfound
      obtain ⟨later, hlater, rfl⟩ := except_map_ok h
      rcases List.mem_append.1 hl with hl | hl
      · rw [Option.mem_toList] at hl
        exact ⟨distance, by rw [hfound, hl]⟩
      · exact mem_ofShells hlater hl

/-- The layouts are those of the shells at the distinct distances, no more than a data set holds. -/
theorem detect_ok {layouts : List (Layout ℚ)} (h : (detect positions).2 = .ok layouts) :
    ∃ distances, distances = Cluster.along .distance ⟨none, none, none⟩ Cluster.tolerances (positions.map foldSeam) ∧
      distances.length ≤ maxFields ∧ (ofShells (positions.map foldSeam) distances).2 = .ok layouts := by
  unfold detect at h
  simp only at h
  split at h
  · cases h
  rename_i hcount
  split at h
  · cases h
  · exact ⟨_, rfl, not_lt.1 hcount, h⟩

theorem mem_detect {layouts : List (Layout ℚ)} (h : (detect positions).2 = .ok layouts) (hl : l ∈ layouts) :
    ofShell l.distance (judgeShell (positions.map foldSeam) l.distance) = .ok (some l) := by
  obtain ⟨distances, -, -, hshells⟩ := detect_ok h
  obtain ⟨distance, hfound⟩ := mem_ofShells hshells hl
  rw [(ofShell_some hfound).1]
  exact hfound

theorem foldSeam_elevation (p : Spherical ℚ) : (foldSeam p).elevation = p.elevation := by
  unfold foldSeam
  split <;> rfl

theorem foldSeam_distance (p : Spherical ℚ) : (foldSeam p).distance = p.distance := by
  unfold foldSeam
  split <;> rfl

/-- The index that detection gives the row at an elevation of a layout's shell. -/
def GivesIndex (positions : List (Spherical ℚ)) (l : Layout ℚ) (elevation : ℚ) (index : Int) : Prop :=
  ∃ rows step, usableRows (judgeShell (positions.map foldSeam) l.distance) = .ok rows ∧
    elevationStep? angleTolerance (rows.map Prod.fst) = .ok (some step) ∧
    rowIndex l.evLimit step elevation = .ok index

/-- Every usable row stands near the row of the layout that detection gave it, and the layout has its
count; no other row of the layout is in reach of a window around it. -/
theorem exists_row {layouts : List (Layout ℚ)} (h : (detect positions).2 = .ok layouts) (hl : l ∈ layouts)
    (hproper : ∀ p ∈ positions, |p.elevation| ≤ 90) (hrows : 2 / 9 ≤ l.step) {elevation : ℚ} {azimuths : Nat}
    (husable : .usable elevation azimuths ∈ judgeShell (positions.map foldSeam) l.distance) :
    ∃ row : Nat, GivesIndex positions l elevation row ∧ l.azCounts[row]? = some (azimuths : Int) ∧
      |elevation - l.elevation row| + 0.1 ≤ 0.9 * l.step ∧
      (2 < l.step → |elevation - l.elevation row| + 0.1 < l.step / 10) := by
  obtain ⟨-, rows, lowest, highest, step, intervals, measured, hfound, hlowest, hhighest, hderived, -⟩ :=
    ofShell_some (mem_detect h hl)
  have hle : highest ≤ 90 := by
    obtain ⟨p, hp, rfl⟩ := exists_position_of_usableRows hfound (List.mem_of_getLast? hhighest)
    obtain ⟨q, hq, rfl⟩ := List.mem_map.1 hp
    rw [foldSeam_elevation]
    exact (abs_le.1 (hproper q hq)).2
  obtain ⟨k, hplaced⟩ := hderived.placed (pairwise_usableRows hfound) hhighest hle
  obtain ⟨row, hindex, hrest⟩ := hderived.exists_row hplaced hrows hlowest (mem_usableRows hfound husable)
  exact ⟨row, ⟨rows, step, hfound, hderived.division, hindex⟩, hrest⟩

/-- A position in the window of a usable row that is no pole stands near a column of the row. -/
theorem exists_column {elevation : ℚ} {azimuths : Nat}
    (husable : .usable elevation azimuths ∈ judgeShell positions distance) (hpole : |elevation| ≤ 89.999)
    {p : Spherical ℚ} (hp : p ∈ positions) (helevation : |p.elevation - elevation| ≤ 0.1)
    (hdistance : |p.distance - distance| ≤ 0.001) :
    2 ≤ azimuths ∧ ∃ column : ℤ, |p.azimuth - column * (360 / azimuths)| ≤ 0.2 := by
  rcases judgeShell_usable husable with ⟨hgt, -⟩ | ⟨-, hcount⟩
  · exact absurd hpole (not_le.2 hgt)
  obtain ⟨hbounds, hgrid⟩ := azimuthCount?_ok hcount
  have hmem : p.azimuth ∈ (positions.filter (Cluster.matchesAll Cluster.tolerances
      ⟨none, some elevation, some distance⟩)).map Axis.azimuth.of :=
    (mem_along .azimuth _ _ _).2 ⟨p, hp, (matchesAll_row ..).2 ⟨helevation, hdistance⟩, rfl⟩
  obtain ⟨head, hhead, hle, hge⟩ := Cluster.exists_distinct (show (0 : ℚ) ≤ 0.1 by norm_num) hmem
  obtain ⟨column, hcolumn⟩ := hgrid head hhead
  refine ⟨hbounds.1, column, ?_⟩
  rw [angleTolerance_eq, abs_le] at hcolumn
  rw [abs_le]
  norm_num at hcolumn hge ⊢
  constructor <;> linarith

end Detected

end HrirAtlas.Layout
