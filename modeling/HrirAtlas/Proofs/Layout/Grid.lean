import HrirAtlas.Layout
import HrirAtlas.Position
import HrirAtlas.Proofs.Exact.Scalar

/-
The grid that a layout describes, at rational angles: its rows, their elevations and the points on
them, and when a layout is a grid that an engine can have. The rows are more than twice the angle
tolerance apart, so no elevation within the tolerance of a row, or of the equator, is off it.
-/

namespace HrirAtlas.Layout

/-! ## Points -/

section Points

variable (l : Layout ℚ)

/-- The angle between neighbouring rows. -/
def step : ℚ := 2 * l.evLimit / (l.azCounts.length - 1)

/-- The elevation of a row. -/
def elevation (row : Nat) : ℚ := -l.evLimit + row * l.step

/-- How many azimuths a row has. -/
def azimuths (row : Nat) : Nat := (l.azCounts.getD row 0).toNat

/-- The point in a column of a row. -/
def point (row column : Nat) : Spherical ℚ :=
  ⟨column * 360 / l.azimuths row, l.elevation row, l.distance⟩

end Points

/-- The layout is a grid of equally spaced rows that reach the equator from above, with counts that
do not grow toward a pole; the rows below the lowest measured one mirror those above. -/
structure IsGrid (l : Layout ℚ) : Prop where
  limit : 0 < l.evLimit ∧ (l.evLimit ≤ 89.999 ∨ l.evLimit = 90)
  rows : minRows ≤ l.azCounts.length ∧ l.azCounts.length ≤ maxRows
  spaced : 0.2 < l.step
  start : 0 ≤ l.evStart ∧ l.elevation l.evStart.toNat ≤ 0
  counts : ∀ row (h : row < l.azCounts.length), if |l.elevation row| = 90 then l.azCounts[row] = 1
    else minAzimuths ≤ l.azCounts[row] ∧ l.azCounts[row] ≤ maxAzimuths
  sparser : ∀ row (h : row < l.azCounts.length - 1),
    (l.elevation (row + 1) ≤ 0 → l.azCounts[row] ≤ l.azCounts[row + 1]) ∧
      (0 ≤ l.elevation row → l.azCounts[row + 1] ≤ l.azCounts[row])
  mirrored : ∀ row (h : row < l.azCounts.length), row < l.evStart →
    l.azCounts[row] = l.azCounts[l.azCounts.length - 1 - row]

/-- The positions lie on the measured rows of the grids, and each of these rows keeps two
neighbouring points; azimuths count around the circle, so that of a single point both are the same. -/
structure Sampled (layouts : List (Layout ℚ)) (positions : List (Spherical ℚ)) : Prop where
  onGrid : ∀ p ∈ positions, ∃ l ∈ layouts, ∃ row < l.azCounts.length, l.evStart ≤ row ∧
    ∃ column < l.azimuths row, p = l.point row column
  paired : ∀ l ∈ layouts, ∀ row < l.azCounts.length, l.evStart ≤ row → ∃ column < l.azimuths row,
    l.point row column ∈ positions ∧ l.point row ((column + 1) % l.azimuths row) ∈ positions

/-! ## Rows -/

section Rows

variable {l : Layout ℚ}

theorem IsGrid.three_le (h : l.IsGrid) : 3 ≤ l.azCounts.length := h.rows.1

theorem IsGrid.step_mul (h : l.IsGrid) : l.step * (l.azCounts.length - 1) = 2 * l.evLimit := by
  have h3 : (3 : ℚ) ≤ l.azCounts.length := by exact_mod_cast h.three_le
  unfold step
  rw [div_mul_cancel₀]
  linarith

theorem elevation_sub (l : Layout ℚ) (row other : Nat) :
    l.elevation row - l.elevation other = (row - other) * l.step := by
  unfold elevation; ring

theorem elevation_succ (l : Layout ℚ) (row : Nat) : l.elevation (row + 1) = l.elevation row + l.step := by
  unfold elevation; push_cast; ring

theorem IsGrid.elevation_last (h : l.IsGrid) : l.elevation (l.azCounts.length - 1) = l.evLimit := by
  have hcast : ((l.azCounts.length - 1 : Nat) : ℚ) = l.azCounts.length - 1 := by
    rw [Nat.cast_sub (le_trans (by decide) h.three_le), Nat.cast_one]
  have hmul := h.step_mul
  unfold elevation
  rw [hcast]
  linarith

theorem IsGrid.step_pos (h : l.IsGrid) : 0 < l.step := lt_trans (by norm_num) h.spaced

/-- Distinct rows are more than twice the tolerance apart. -/
theorem IsGrid.elevation_lt (h : l.IsGrid) {row other : Nat} (hlt : row < other) :
    l.elevation row + 0.2 < l.elevation other := by
  have hs := h.spaced
  have h1 : (1 : ℚ) ≤ other - row := by
    have : (row : ℚ) + 1 ≤ other := by exact_mod_cast hlt
    linarith
  have h2 := elevation_sub l other row
  nlinarith

theorem IsGrid.eq_of_elevation_near (h : l.IsGrid) {row other : Nat}
    (hnear : |l.elevation row - l.elevation other| ≤ 0.1) : row = other := by
  rw [abs_le] at hnear
  rcases Nat.lt_trichotomy row other with hlt | heq | hgt
  · have := h.elevation_lt hlt; norm_num at this hnear; linarith
  · exact heq
  · have := h.elevation_lt hgt; norm_num at this hnear; linarith

/-- An elevation is a whole number of half steps. -/
theorem IsGrid.two_mul_elevation (h : l.IsGrid) (row : Nat) :
    2 * l.elevation row = ((2 * row - (l.azCounts.length - 1) : ℤ) : ℚ) * l.step := by
  have hmul := h.step_mul
  unfold elevation
  push_cast
  linarith

theorem IsGrid.elevation_nonpos_iff (h : l.IsGrid) (row : Nat) :
    l.elevation row ≤ 0 ↔ 2 * row + 1 ≤ l.azCounts.length := by
  have hs := h.step_pos
  have h2 := h.two_mul_elevation row
  constructor
  · intro hle
    by_contra hlt
    have hk : (1 : ℤ) ≤ 2 * row - (l.azCounts.length - 1) := by omega
    have hk' : (1 : ℚ) ≤ ((2 * row - (l.azCounts.length - 1) : ℤ) : ℚ) := by exact_mod_cast hk
    nlinarith
  · intro hle
    have hk : (2 * row - (l.azCounts.length - 1) : ℤ) ≤ 0 := by omega
    have hk' : ((2 * row - (l.azCounts.length - 1) : ℤ) : ℚ) ≤ 0 := by exact_mod_cast hk
    nlinarith

/-- No row but one on the equator is within the tolerance of it. -/
theorem IsGrid.elevation_nonpos_of_le (h : l.IsGrid) {row : Nat} (hle : l.elevation row ≤ 0.1) :
    l.elevation row ≤ 0 := by
  rw [h.elevation_nonpos_iff]
  by_contra hlt
  have hs := h.spaced
  have hk : (1 : ℤ) ≤ 2 * row - (l.azCounts.length - 1) := by omega
  have hk' : (1 : ℚ) ≤ ((2 * row - (l.azCounts.length - 1) : ℤ) : ℚ) := by exact_mod_cast hk
  have h2 := h.two_mul_elevation row
  norm_num at hs hle
  nlinarith

theorem IsGrid.elevation_nonneg_of_le (h : l.IsGrid) {row : Nat} (hle : -0.1 ≤ l.elevation row) :
    0 ≤ l.elevation row := by
  by_contra hlt
  have hs := h.spaced
  have h2 := h.two_mul_elevation row
  norm_num at hs hle hlt
  have hk : (2 * row - (l.azCounts.length - 1) : ℤ) ≤ -1 := by
    by_contra hk
    have hk0 : (0 : ℤ) ≤ 2 * row - (l.azCounts.length - 1) := by omega
    have hk' : (0 : ℚ) ≤ ((2 * row - (l.azCounts.length - 1) : ℤ) : ℚ) := by exact_mod_cast hk0
    nlinarith
  have hk' : ((2 * row - (l.azCounts.length - 1) : ℤ) : ℚ) ≤ -1 := by exact_mod_cast hk
  nlinarith

theorem IsGrid.abs_elevation_le (h : l.IsGrid) {row : Nat} (hrow : row < l.azCounts.length) :
    |l.elevation row| ≤ l.evLimit := by
  have hlast : l.elevation row ≤ l.elevation (l.azCounts.length - 1) := by
    rcases Nat.lt_or_ge row (l.azCounts.length - 1) with hlt | hge
    · have := h.elevation_lt hlt; norm_num at this; linarith
    · rw [show row = l.azCounts.length - 1 by omega]
  rw [h.elevation_last] at hlast
  have hpos : 0 ≤ row * l.step := mul_nonneg (Nat.cast_nonneg _) h.step_pos.le
  rw [abs_le]
  exact ⟨by unfold elevation; linarith, hlast⟩

/-- A row beyond the bound for poles is a pole. -/
theorem IsGrid.pole_iff (h : l.IsGrid) {row : Nat} (hrow : row < l.azCounts.length) :
    89.999 < |l.elevation row| ↔ |l.elevation row| = 90 := by
  have habs := h.abs_elevation_le hrow
  refine ⟨fun hgt => ?_, fun heq => by rw [heq]; norm_num⟩
  rcases h.limit.2 with hle | hlim
  · exact absurd (hgt.trans_le (habs.trans hle)) (lt_irrefl _)
  · have h90 : l.elevation (l.azCounts.length - 1) = 90 := by rw [h.elevation_last, hlim]
    have h0 : l.elevation 0 = -90 := by unfold elevation; rw [hlim]; norm_num
    -- only the outermost rows are that far out
    by_contra hne
    have hne0 : row ≠ 0 := by rintro rfl; exact hne (by rw [h0]; norm_num)
    have hnel : row ≠ l.azCounts.length - 1 := by intro he; exact hne (by rw [he, h90]; norm_num)
    have hlow := h.elevation_lt (Nat.pos_of_ne_zero hne0)
    have hhigh := h.elevation_lt (show row < l.azCounts.length - 1 by omega)
    rw [h0] at hlow
    rw [h90] at hhigh
    rcases lt_abs.1 hgt with hgt | hgt <;> norm_num at hlow hhigh hgt <;> linarith

end Rows

/-! ## Columns -/

section Columns

variable {l : Layout ℚ} {row : Nat}

theorem IsGrid.azimuths_eq (h : l.IsGrid) (hrow : row < l.azCounts.length) :
    (l.azimuths row : ℤ) = l.azCounts[row] := by
  have hc := h.counts row hrow
  unfold azimuths
  rw [List.getD_eq_getElem?_getD, List.getElem?_eq_getElem hrow, Option.getD_some, Int.toNat_of_nonneg]
  split at hc
  · omega
  · omega

theorem IsGrid.azimuths_pole (h : l.IsGrid) (hrow : row < l.azCounts.length) (hpole : 89.999 < |l.elevation row|) :
    l.azimuths row = 1 := by
  have hc := h.counts row hrow
  rw [if_pos ((h.pole_iff hrow).1 hpole)] at hc
  have := h.azimuths_eq hrow
  omega

theorem IsGrid.azimuths_bounds (h : l.IsGrid) (hrow : row < l.azCounts.length)
    (hpole : ¬ 89.999 < |l.elevation row|) : 2 ≤ l.azimuths row ∧ l.azimuths row ≤ 255 := by
  have hc := h.counts row hrow
  rw [if_neg fun he => hpole ((h.pole_iff hrow).2 he)] at hc
  have := h.azimuths_eq hrow
  unfold minAzimuths maxAzimuths at hc
  omega

theorem IsGrid.azimuths_pos (h : l.IsGrid) (hrow : row < l.azCounts.length) :
    0 < l.azimuths row ∧ l.azimuths row ≤ 255 := by
  by_cases hpole : 89.999 < |l.elevation row|
  · rw [h.azimuths_pole hrow hpole]; decide
  · have := h.azimuths_bounds hrow hpole; omega

end Columns

end HrirAtlas.Layout
