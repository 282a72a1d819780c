import HrirAtlas.Layout.Uniform
import HrirAtlas.Proofs.Layout.Grid

/-
Equal divisions are recognised. Columns of a row that keep two neighbours have the row's step as
their least gap, so the count of the full row is found. The measured rows of a grid are the first
rows, from the top down, of the finest division that can be tried, so the first try fits. A grid
passes the density check.
-/

namespace HrirAtlas.Layout

/-! ## Constants -/

@[simp] theorem angleTolerance_eq : (angleTolerance : ℚ) = 0.1 := rfl

@[simp] theorem poleElevation_eq : (poleElevation : ℚ) = 89.999 := rfl

/-! ## Least gap -/

theorem least_cons (first x : ℚ) (rest : List ℚ) :
    Scalar.least first (x :: rest) = Scalar.least (min first x) rest := by
  show Scalar.least (if first ≤ x ∨ ¬ first ≤ first then first else x) rest = _
  rw [min_def]
  simp only [le_refl, not_true, or_false]

/-- On the rational numbers the least element is what its name says. -/
theorem isLeast_least : ∀ (first : ℚ) (rest : List ℚ), IsLeast {x | x ∈ first :: rest} (Scalar.least first rest)
  | first, [] => ⟨List.mem_singleton.2 rfl, fun x hx => (List.mem_singleton.1 hx).ge⟩
  | first, x :: rest => by
    -- the walk keeps the smaller of the two in front
    obtain ⟨hmem, hle⟩ := isLeast_least (min first x) rest
    rw [least_cons]
    refine ⟨?_, fun y hy => ?_⟩
    · rcases List.mem_cons.1 hmem with heq | hmem
      · rw [heq]
        rcases min_choice first x with h | h <;> rw [h] <;> simp
      · exact List.mem_cons_of_mem _ (List.mem_cons_of_mem _ hmem)
    · have hmin := hle List.mem_cons_self
      rcases List.mem_cons.1 hy with rfl | hy
      · exact hmin.trans (min_le_left _ _)
      rcases List.mem_cons.1 hy with rfl | hy
      · exact hmin.trans (min_le_right _ _)
      · exact hle (List.mem_cons_of_mem _ hy)

theorem least_eq {m first : ℚ} {rest : List ℚ} (hm : m ∈ first :: rest) (hle : ∀ x ∈ first :: rest, m ≤ x) :
    Scalar.least first rest = m :=
  (isLeast_least first rest).unique ⟨hm, hle⟩

/-- The gaps of a row are the differences of neighbours, up to the closing azimuth. -/
theorem forall_mem_gapsAfter {P : ℚ → Prop} {closing : ℚ} : ∀ {azimuth : ℚ} {rest : List ℚ},
    (∀ gap ∈ gapsAfter closing azimuth rest, P gap) ↔ (azimuth :: rest ++ [closing]).IsChain fun x y => P (y - x)
  | azimuth, [] => by
    simp only [gapsAfter, List.mem_singleton, forall_eq, List.cons_append, List.nil_append, List.isChain_pair]
  | azimuth, next :: rest => by
    rw [List.cons_append, List.cons_append, List.isChain_cons_cons, ← List.cons_append, ← forall_mem_gapsAfter]
    simp only [gapsAfter, List.forall_mem_cons]

section Columns

variable {n : Nat}

theorem column_sub (n column other : Nat) :
    (other : ℚ) * 360 / n - column * 360 / n = (other - column) * (360 / n) := by ring

theorem step_le_of_lt {column other : Nat} (hlt : column < other) :
    (360 : ℚ) / n ≤ other * 360 / n - column * 360 / n := by
  have h1 : (1 : ℚ) ≤ other - column := by
    have : (column : ℚ) + 1 ≤ other := by exact_mod_cast hlt
    linarith
  rw [column_sub]
  exact le_mul_of_one_le_left (by positivity) h1

/-- No gap is below the step. -/
theorem le_of_mem_gapsAfter {closing : Nat} : ∀ {column : Nat} {columns : List Nat},
    (column :: columns).Pairwise (· < ·) → (∀ c ∈ column :: columns, c < closing) →
    ∀ gap ∈ gapsAfter ((closing : ℚ) * 360 / n) (column * 360 / n) (columns.map fun c : Nat => (c : ℚ) * 360 / n),
    (360 : ℚ) / n ≤ gap
  | column, [], _, hlt, gap, hgap => by
    rw [List.mem_singleton.1 hgap]
    exact step_le_of_lt (hlt column List.mem_cons_self)
  | column, next :: columns, hs, hlt, gap, hgap => by
    rw [List.pairwise_cons] at hs
    rcases List.mem_cons.1 hgap with rfl | hgap
    · exact step_le_of_lt (hs.1 next List.mem_cons_self)
    · exact le_of_mem_gapsAfter hs.2 (fun c hc => hlt c (List.mem_cons_of_mem _ hc)) gap hgap

/-- Where a column is followed by the next one, the last by the closing one, the gap is the step. -/
theorem mem_gapsAfter {closing : Nat} : ∀ {column k : Nat} {columns : List Nat},
    (column :: columns).Pairwise (· < ·) → k ∈ column :: columns →
    k + 1 ∈ columns ∨ (k + 1 = closing ∧ ∀ c ∈ columns, c ≤ k) →
    (360 : ℚ) / n ∈
      gapsAfter ((closing : ℚ) * 360 / n) (column * 360 / n) (columns.map fun c : Nat => (c : ℚ) * 360 / n)
  | column, k, [], _, hk, hnext => by
    rcases hnext with hnext | ⟨rfl, -⟩
    · exact absurd hnext List.not_mem_nil
    · rw [List.mem_singleton.1 hk]
      refine List.mem_singleton.2 ?_
      show (360 : ℚ) / n = _
      rw [show (((column + 1 : Nat) : ℚ) * 360 / n - column * 360 / n : ℚ) = 360 / n by push_cast; ring]
  | column, k, next :: columns, hs, hk, hnext => by
    rw [List.pairwise_cons] at hs
    have hs' := List.pairwise_cons.1 hs.2
    have hgap : k = column → k + 1 = next → (360 : ℚ) / n = (next : ℚ) * 360 / n - column * 360 / n := by
      rintro rfl rfl; push_cast; ring
    rcases List.mem_cons.1 hk with hk | hk
    · -- the first column: what follows it at once can only be the next one of the list
      rcases hnext with hnext | ⟨-, hall⟩
      · rcases List.mem_cons.1 hnext with hnext | hnext
        · exact List.mem_cons.2 (.inl (hgap hk hnext))
        · have h1 := hs.1 next List.mem_cons_self
          have h2 := hs'.1 _ hnext
          omega
      · have h1 := hs.1 next List.mem_cons_self
        have h2 := hall next List.mem_cons_self
        omega
    · refine List.mem_cons_of_mem _ (mem_gapsAfter hs.2 hk ?_)
      rcases hnext with hnext | ⟨hclose, hall⟩
      · rcases List.mem_cons.1 hnext with hnext | hnext
        · have h1 : next ≤ k := by
            rcases List.mem_cons.1 hk with rfl | hk
            · exact le_rfl
            · exact (hs'.1 k hk).le
          omega
        · exact .inl hnext
      · exact .inr ⟨hclose, fun c hc => hall c (List.mem_cons_of_mem _ hc)⟩

/-! ## Azimuths of a row -/

theorem offGrid_column (hn : 0 < n) (column : Nat) :
    offGrid angleTolerance (360 / n : ℚ) ((column : ℚ) * 360 / n) = .ok false := by
  have hn0 : (n : ℚ) ≠ 0 := by exact_mod_cast hn.ne'
  have hdiv : ((column : ℚ) * 360 / n) / (360 / n) = ((column : ℤ) : ℚ) := by push_cast; field_simp
  have hzero : (column : ℚ) * 360 / n - ((column : ℤ) : ℚ) * (360 / n) = 0 := by push_cast; ring
  unfold offGrid
  rw [Exact.divide_eq _ (by positivity), hdiv]
  show (do let multiple ← Scalar.round ((column : ℤ) : ℚ); _) = _
  rw [Exact.round_intCast]
  show Except.ok (decide (Scalar.abs ((column : ℚ) * 360 / n - ((column : ℤ) : ℚ) * (360 / n)) > angleTolerance)) = _
  rw [hzero, Exact.abs_eq, abs_zero, angleTolerance_eq]
  norm_num

theorem allOnGrid_columns (hn : 0 < n) : ∀ columns : List Nat,
    allOnGrid angleTolerance (360 / n : ℚ) (columns.map fun c : Nat => (c : ℚ) * 360 / n) = .ok true
  | [] => rfl
  | column :: columns => by
    show (do if ← offGrid angleTolerance (360 / n : ℚ) ((column : ℚ) * 360 / n) then return false else _) = _
    rw [offGrid_column hn]
    exact allOnGrid_columns hn columns

end Columns

/-- A column with a neighbour is followed by it, or is the last one with the first one being zero. -/
theorem follows_of_neighbour {n k first : Nat} {columns : List Nat} (hs : (first :: columns).Pairwise (· < ·))
    (hlt : ∀ c ∈ first :: columns, c < n) (hk : k ∈ first :: columns) (hnext : (k + 1) % n ∈ first :: columns) :
    k + 1 ∈ columns ∨ (k + 1 = first + n ∧ ∀ c ∈ columns, c ≤ k) := by
  have hfirst : ∀ c ∈ first :: columns, first ≤ c := by
    intro c hc
    rcases List.mem_cons.1 hc with rfl | hc
    · exact le_rfl
    · exact ((List.pairwise_cons.1 hs).1 c hc).le
  rcases Nat.lt_or_ge (k + 1) n with h | h
  · rw [Nat.mod_eq_of_lt h] at hnext
    rcases List.mem_cons.1 hnext with h' | h'
    · have := hfirst k hk; omega
    · exact .inl h'
  · have hkn := hlt k hk
    rw [show k + 1 = n by omega, Nat.mod_self] at hnext
    have := hfirst 0 hnext
    refine .inr ⟨by omega, fun c hc => ?_⟩
    have := hlt c (List.mem_cons_of_mem _ hc)
    omega

/-- The count of a row is found from any of its columns, as long as two of them are neighbours. -/
theorem azimuthCount?_columns {n k : Nat} (hn : 2 ≤ n ∧ n ≤ 255) {columns : List Nat}
    (hs : columns.Pairwise (· < ·)) (hlt : ∀ c ∈ columns, c < n) (hlen : 2 ≤ columns.length)
    (hk : k ∈ columns) (hnext : (k + 1) % n ∈ columns) :
    azimuthCount? angleTolerance (columns.map fun c : Nat => (c : ℚ) * 360 / n) = .ok (some n) := by
  have hn0 : (n : ℚ) ≠ 0 := by exact_mod_cast (show n ≠ 0 by omega)
  obtain ⟨first, second, columns, rfl⟩ : ∃ first second rest, columns = first :: second :: rest := by
    match columns, hlen with
    | first :: second :: rest, _ => exact ⟨first, second, rest, rfl⟩
  -- the last gap closes the circle: it ends at the first column, one turn later
  have hclosing : (first : ℚ) * 360 / n + 360.0 = ((first + n : Nat) : ℚ) * 360 / n := by
    push_cast; field_simp; norm_num; ring
  have hbelow : ∀ c ∈ first :: second :: columns, c < first + n := fun c hc => by have := hlt c hc; omega
  have hleast : Scalar.least ((second : ℚ) * 360 / n - first * 360 / n)
      (gapsAfter ((first : ℚ) * 360 / n + 360.0) ((second : ℚ) * 360 / n)
        (columns.map fun c : Nat => (c : ℚ) * 360 / n)) = 360 / n := by
    rw [hclosing]
    exact least_eq (mem_gapsAfter hs hk (follows_of_neighbour hs hlt hk hnext)) (le_of_mem_gapsAfter hs hbelow)
  have hround : Scalar.divide (360.0 : ℚ) (360 / n) = .ok ((n : ℤ) : ℚ) := by
    rw [Exact.divide_eq _ (by positivity)]
    congr 1
    push_cast; field_simp; norm_num
  have hstep : (360.0 : ℚ) / ((n : ℤ) : ℚ) = 360 / n := by push_cast; norm_num
  have hgrid := allOnGrid_columns (show 0 < n by omega) (first :: second :: columns)
  simp only [List.map_cons, angleTolerance_eq] at hgrid
  unfold azimuthCount?
  simp only [List.map_cons, hleast, hround, hstep, hgrid, Exact.ofInt_eq, sub_self, Exact.abs_eq, abs_zero,
    angleTolerance_eq, bind, Except.bind, pure, Except.pure, Exact.round_intCast]
  rw [if_neg (by unfold minAzimuths maxAzimuths; omega), if_neg (by norm_num)]
  rfl

/-! ## Elevations of a field -/

theorem rowsFit_rows {tolerance : ℚ} (htol : 0 ≤ tolerance) (top step : ℚ) : ∀ (row count : Nat),
    rowsFit tolerance top step row ((List.range' row count).map fun i : Nat => top - i * step) = true
  | _, 0 => rfl
  | row, count + 1 => by
    show (!decide (Scalar.abs (top - row * step - (top - row * step)) > tolerance)
      && rowsFit tolerance top step (row + 1) ((List.range' (row + 1) count).map fun i : Nat => top - i * step)) =
        true
    rw [rowsFit_rows htol top step (row + 1) count, sub_self, Exact.abs_eq, abs_zero,
      decide_eq_false (not_lt.2 htol)]
    rfl

/-- Sorting finds the descending order of the values, whatever order they are given in. -/
theorem mergeSort_eq_of_descending {values descending : List ℚ} (hperm : values.Perm descending)
    (h : descending.Pairwise (· ≥ ·)) : values.mergeSort (fun x y => !decide (x < y)) = descending := by
  have hdesc : descending.Pairwise fun x y => (!decide (x < y)) = true := by
    refine h.imp fun {x y} hxy => ?_
    simpa only [Bool.not_eq_true', decide_eq_false_iff_not, not_lt] using hxy
  -- the order is total, so there is one sorted list of the values
  refine List.Perm.eq_of_pairwise (fun x y _ _ hxy hyx => ?_) (List.pairwise_mergeSort ?_ ?_ _) hdesc
    ((List.mergeSort_perm _ _).trans hperm)
  · simp only [Bool.not_eq_true', decide_eq_false_iff_not, not_lt] at hxy hyx
    exact le_antisymm hyx hxy
  · intro x y z hxy hyz
    simp only [Bool.not_eq_true', decide_eq_false_iff_not, not_lt] at hxy hyz ⊢
    exact hyz.trans hxy
  · intro x y
    simp only [Bool.or_eq_true, Bool.not_eq_true', decide_eq_false_iff_not, not_lt]
    exact le_total y x

/-- The descending order of ascending values is the reverse. -/
theorem mergeSort_descending {values : List ℚ} (h : values.Pairwise (· ≤ ·)) :
    values.mergeSort (fun x y => !decide (x < y)) = values.reverse :=
  mergeSort_eq_of_descending (List.reverse_perm values).symm (List.pairwise_reverse.2 h)

/-- The measured rows from the top down. -/
theorem IsGrid.mergeSort_rows {l : Layout ℚ} (h : l.IsGrid) {start : Nat} (hstart : start ≤ l.azCounts.length) :
    ((List.range' start (l.azCounts.length - start)).map l.elevation).mergeSort (fun x y => !decide (x < y)) =
      (List.range' 0 (l.azCounts.length - start)).map fun i : Nat => l.evLimit - i * l.step := by
  have hreverse : (List.range' 0 (l.azCounts.length - start)).map (fun i : Nat => l.evLimit - i * l.step) =
      ((List.range' start (l.azCounts.length - start)).map l.elevation).reverse := by
    rw [← List.map_reverse, List.reverse_range', List.map_map, List.range_eq_range']
    refine List.map_congr_left fun i hi => ?_
    have hi' : i < l.azCounts.length - start := by simpa using hi
    have hsub := elevation_sub l (l.azCounts.length - 1) (start + (l.azCounts.length - start) - 1 - i)
    rw [h.elevation_last, show start + (l.azCounts.length - start) - 1 - i = l.azCounts.length - 1 - i by omega,
      Nat.cast_sub (show i ≤ l.azCounts.length - 1 by omega)] at hsub
    show _ = l.elevation (start + (l.azCounts.length - start) - 1 - i)
    rw [show start + (l.azCounts.length - start) - 1 - i = l.azCounts.length - 1 - i by omega]
    linarith
  have hrange : (List.range' start (l.azCounts.length - start)).Pairwise (· < ·) := List.pairwise_lt_range'
  have hascending : ((List.range' start (l.azCounts.length - start)).map l.elevation).Pairwise (· ≤ ·) := by
    rw [List.pairwise_map]
    refine hrange.imp fun {i j} hij => ?_
    have := h.elevation_lt hij
    norm_num at this
    linarith
  rw [hreverse]
  exact mergeSort_descending hascending

/-- Two measured rows from the top down already give the step. -/
theorem IsGrid.elevationStep?_rows {l : Layout ℚ} (h : l.IsGrid) {start : Nat}
    (hstart : start + 2 ≤ l.azCounts.length) :
    elevationStep? angleTolerance ((List.range' start (l.azCounts.length - start)).map l.elevation) =
      .ok (some l.step) := by
  obtain ⟨m, hm⟩ : ∃ m, l.azCounts.length - start = m + 2 := ⟨l.azCounts.length - start - 2, by omega⟩
  have hlen := h.rows
  have hpos := h.limit.1
  have hstep := h.step_pos
  unfold elevationStep?
  rw [h.mergeSort_rows (by omega), hm]
  have htop : l.evLimit - (0 : Nat) * l.step = l.evLimit := by push_cast; ring
  have hratio : Scalar.divide (2.0 * l.evLimit) (l.evLimit - (l.evLimit - (1 : Nat) * l.step)) =
      .ok ((l.azCounts.length - 1 : ℤ) : ℚ) := by
    rw [Exact.divide_eq _ (by push_cast; linarith)]
    congr 1
    rw [div_eq_iff (by push_cast; linarith)]
    have := h.step_mul
    push_cast; norm_num; linarith
  -- the finest division that is tried has the rows of the grid
  have hcount : (min ((l.azCounts.length : ℤ) - 1) (maxRows - 1)).toNat = (l.azCounts.length - 2) + 1 := by
    unfold maxRows minRows at *; omega
  have hlast : 2.0 * l.evLimit / Scalar.ofInt ((l.azCounts.length - 2 : Nat) + 1 : ℤ) = l.step := by
    rw [Exact.ofInt_eq,
      show ((l.azCounts.length - 2 : Nat) : ℤ) + 1 = l.azCounts.length - 1 by have := h.three_le; omega]
    unfold step
    push_cast; norm_num
  have hfit := rowsFit_rows (show (0 : ℚ) ≤ 0.1 by norm_num) l.evLimit l.step 0 (m + 2)
  show (do if l.evLimit - (0 : Nat) * l.step ≤ (0.0 : ℚ) then return none
           let count ← Scalar.ceil (← Scalar.divide (2.0 * (l.evLimit - (0 : Nat) * l.step))
             (l.evLimit - (0 : Nat) * l.step - (l.evLimit - (1 : Nat) * l.step)))
           return finestStep? angleTolerance (l.evLimit - (0 : Nat) * l.step)
            ((List.range' 0 (m + 2)).map fun i : Nat => l.evLimit - i * l.step) (min count (maxRows - 1)).toNat) = _
  rw [htop, hratio, if_neg (by norm_num; exact hpos)]
  simp only [bind, Except.bind, pure, Except.pure, Exact.ceil_intCast, hcount]
  unfold finestStep?
  rw [if_neg (by simp; omega), hlast]
  simp only [angleTolerance_eq, hfit, if_true]

/-! ## Density -/

theorem denser_eq_false_iff {lower upper : ℚ} {lowerCount upperCount : Int} :
    denser lower upper lowerCount upperCount = false ↔
      (upper ≤ 0.1 → lowerCount ≤ upperCount) ∧ (-0.1 ≤ lower → upperCount ≤ lowerCount) := by
  unfold denser
  rw [angleTolerance_eq, Bool.or_eq_false_iff]
  simp only [Bool.and_eq_false_iff, decide_eq_false_iff_not, gt_iff_lt, not_lt, ← imp_iff_not_or]

theorem IsGrid.not_denser {l : Layout ℚ} (h : l.IsGrid) {row : Nat} (hrow : row + 1 < l.azCounts.length) :
    denser (l.elevation row) (l.elevation row + l.step) l.azCounts[row] l.azCounts[row + 1] = false := by
  have hs := h.sparser row (by omega)
  have hlow : l.elevation (row + 1) ≤ 0.1 → l.azCounts[row] ≤ l.azCounts[row + 1] := fun hle =>
    hs.1 (h.elevation_nonpos_of_le hle)
  have hhigh : -0.1 ≤ l.elevation row → l.azCounts[row + 1] ≤ l.azCounts[row] := fun hle =>
    hs.2 (h.elevation_nonneg_of_le hle)
  rw [elevation_succ] at hlow
  exact denser_eq_false_iff.2 ⟨hlow, hhigh⟩

theorem IsGrid.checkDensityFrom_ok {l : Layout ℚ} (h : l.IsGrid) : ∀ (remaining row : Nat),
    l.azCounts.length = row + remaining →
    checkDensityFrom l.evLimit l.step l.distance row (l.azCounts.drop row) = .ok ()
  | 0, row, hrow => by rw [List.drop_eq_nil_of_le (by omega)]; rfl
  | 1, row, hrow => by
    rw [List.drop_eq_getElem_cons (by omega), List.drop_eq_nil_of_le (by omega)]; rfl
  | remaining + 2, row, hrow => by
    have ih := h.checkDensityFrom_ok (remaining + 1) (row + 1) (by omega)
    have hlt : row + 1 < l.azCounts.length := by omega
    rw [List.drop_eq_getElem_cons hlt] at ih
    rw [List.drop_eq_getElem_cons (show row < l.azCounts.length by omega), List.drop_eq_getElem_cons hlt]
    unfold checkDensityFrom
    show (if denser (l.elevation row) (l.elevation row + l.step) l.azCounts[row] l.azCounts[row + 1]
      then _ else _) = _
    rw [h.not_denser hlt]
    exact ih

theorem IsGrid.checkDensity_ok {l : Layout ℚ} (h : l.IsGrid) :
    checkDensity l.azCounts l.evLimit l.step l.distance = .ok () :=
  h.checkDensityFrom_ok l.azCounts.length 0 (by omega)

end HrirAtlas.Layout
