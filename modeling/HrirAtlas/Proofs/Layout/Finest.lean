import HrirAtlas.Proofs.Layout.Fit

/-
The step that is found for the elevations of a field. Of the grids that the elevations fit, the search
takes the one with the most steps, but it starts at as many steps as the gap between the two highest
rows seems to allow. A second row that is lower than its place, within the tolerance, makes that gap
wider than the step, and the grid that the elevations fit may then have more steps than are tried.
-/

namespace HrirAtlas.Layout

section Search

variable {elevations rest : List ℚ} {top second : ℚ}

/-- A number of steps is tried if one step less, each as wide as the first gap, would not reach across
the field, and if a field can have that many. -/
theorem le_tried_iff (hgap : second < top) (htop : 0 < top) {count : Nat} :
    count ≤ (min ⌈2 * top / (top - second)⌉ 180).toNat ↔ count ≤ 180 ∧ (count - 1) * (top - second) < 2 * top := by
  have hgap' : 0 < top - second := sub_pos.2 hgap
  have hceil : (count : ℤ) ≤ ⌈2 * top / (top - second)⌉ ↔ (count - 1) * (top - second) < 2 * top := by
    rw [Int.le_ceil_iff, lt_div_iff₀ hgap', Int.cast_natCast]
  have hpos : 0 < ⌈2 * top / (top - second)⌉ := Int.ceil_pos.2 (div_pos (by linarith) hgap')
  rw [← hceil]
  omega

/-- Of the numbers of steps that are tried, the search finds the greatest that the elevations fit. -/
theorem elevationStep?_of_perm (tolerance : ℚ) (hperm : elevations.Perm (top :: second :: rest))
    (hdescending : (top :: second :: rest).Pairwise (· > ·)) (htop : 0 < top) :
    elevationStep? tolerance elevations =
      .ok (finestStep? tolerance top (top :: second :: rest) (min ⌈2 * top / (top - second)⌉ 180).toNat) := by
  have hgap : second < top := (List.pairwise_cons.1 hdescending).1 second List.mem_cons_self
  unfold elevationStep?
  rw [mergeSort_eq_of_descending hperm (hdescending.imp le_of_lt)]
  show (do if top ≤ (0.0 : ℚ) then return none
           let count ← Scalar.ceil (← Scalar.divide (2.0 * top) (top - second))
           return finestStep? tolerance top (top :: second :: rest) (min count (maxRows - 1)).toNat) = _
  rw [if_neg (by norm_num; exact htop), Exact.divide_eq _ (sub_ne_zero.2 hgap.ne')]
  simp only [bind, Except.bind, pure, Except.pure, Exact.ceil_eq]
  rw [show (2.0 : ℚ) = 2 by norm_num]
  rfl

/-- The search always answers: with the step of the greatest number of steps that fits and is tried, or
with none if no number of steps is both. -/
theorem elevationStep?_answers (tolerance : ℚ) (hperm : elevations.Perm (top :: second :: rest))
    (hdescending : (top :: second :: rest).Pairwise (· > ·)) (htop : 0 < top) :
    (∃ count, IsGreatest {count : Nat | (count ≤ 180 ∧ (count - 1) * (top - second) < 2 * top) ∧
        FitsGrid tolerance top (top :: second :: rest) count} count ∧
      elevationStep? tolerance elevations = .ok (some (2 * top / count))) ∨
    ((∀ count ≤ 180, FitsGrid tolerance top (top :: second :: rest) count → 2 * top ≤ (count - 1) * (top - second)) ∧
      elevationStep? tolerance elevations = .ok none) := by
  have hgap : second < top := (List.pairwise_cons.1 hdescending).1 second List.mem_cons_self
  rw [elevationStep?_of_perm tolerance hperm hdescending htop]
  simp only [← le_tried_iff hgap htop]
  rcases finestStep?_outcome tolerance top (top :: second :: rest) (min ⌈2 * top / (top - second)⌉ 180).toNat with
    ⟨count, hgreatest, hfound⟩ | ⟨hnone, hfound⟩
  · exact .inl ⟨count, hgreatest, congrArg Except.ok hfound⟩
  · refine .inr ⟨fun count hle hfits => ?_, congrArg Except.ok hfound⟩
    by_contra hless
    exact hnone count ((le_tried_iff hgap htop).2 ⟨hle, not_le.1 hless⟩) hfits

/-- A positive step is found if and only if the elevations fit a grid with so few steps that one less,
as wide as the first gap, would not reach from `-top` to `top`. It is the step of such a grid, and no
grid with more steps that the elevations fit has so few. -/
theorem elevationStep?_outcome (hperm : elevations.Perm (top :: second :: rest))
    (hdescending : (top :: second :: rest).Pairwise (· > ·)) (htop : 0 < top) :
    ∃ found, elevationStep? angleTolerance elevations = .ok found ∧
      ((∃ step, found = some step ∧ 0 < step) ↔ ∃ count ≤ 180, FitsGrid 0.1 top (top :: second :: rest) count ∧
        (count - 1) * (top - second) < 2 * top) ∧
      ∀ step, found = some step → ∃ count ≤ 180, FitsGrid 0.1 top (top :: second :: rest) count ∧
        (count - 1) * (top - second) < 2 * top ∧ step = 2 * top / count ∧
        ∀ more ≤ 180, FitsGrid 0.1 top (top :: second :: rest) more → count < more →
          2 * top ≤ (more - 1) * (top - second) := by
  rcases elevationStep?_answers angleTolerance hperm hdescending htop with
    ⟨count, ⟨⟨⟨hle, hfew⟩, hfits⟩, hgreatest⟩, hfound⟩ | ⟨hnone, hfound⟩
  · have hpos : (0 : ℚ) < count := by exact_mod_cast hfits.pos
    refine ⟨_, hfound, iff_of_true ⟨_, rfl, by positivity⟩ ⟨count, hle, hfits, hfew⟩, ?_⟩
    rintro step ⟨⟩
    refine ⟨count, hle, hfits, hfew, rfl, fun more hmore hmoreFits hlt => ?_⟩
    by_contra hless
    exact absurd (hgreatest ⟨⟨hmore, not_le.1 hless⟩, hmoreFits⟩) (not_le.2 hlt)
  · refine ⟨_, hfound, iff_of_false nofun ?_, nofun⟩
    rintro ⟨count, hle, hfits, hfew⟩
    exact absurd (hnone count hle hfits) (not_le.2 hfew)

end Search

/-- Three rows of a half sphere, given in no order, the second one off its place. -/
theorem elevationStep?_outcome_halfSphere : ([451 / 10, 0, 90] : List ℚ).Perm [90, 451 / 10, 0] ∧
    ([90, 451 / 10, 0] : List ℚ).Pairwise (· > ·) ∧ FitsGrid 0.1 90 [90, 451 / 10, 0] 4 ∧
    ∃ step : ℚ, elevationStep? angleTolerance [451 / 10, 0, 90] = .ok (some step) ∧ 0 < step := by
  have hperm : ([451 / 10, 0, 90] : List ℚ).Perm [90, 451 / 10, 0] := by decide +kernel
  have hdescending : ([90, 451 / 10, 0] : List ℚ).Pairwise (· > ·) := by decide +kernel
  have hfits : FitsGrid 0.1 90 [90, 451 / 10, 0] 4 := by constructor <;> decide +kernel
  obtain ⟨found, hfound, hpositive, -⟩ := elevationStep?_outcome hperm hdescending (by norm_num)
  obtain ⟨step, rfl, hpos⟩ := hpositive.2 ⟨4, by norm_num, hfits, by norm_num⟩
  exact ⟨hperm, hdescending, hfits, step, hfound, hpos⟩

/-- Three rows near the highest of a grid of 180 steps. The second one is low, though within the
tolerance, so that the first gap asks for 167 steps at most, and no step is found. -/
theorem elevationStep?_wideFirstGap : FitsGrid 0.1 90 [90, 2223 / 25, 88] 180 ∧
    elevationStep? angleTolerance ([88, 2223 / 25, 90] : List ℚ) = .ok none := by
  have hperm : ([88, 2223 / 25, 90] : List ℚ).Perm [90, 2223 / 25, 88] := by decide +kernel
  refine ⟨by constructor <;> decide +kernel, ?_⟩
  rw [elevationStep?_of_perm angleTolerance hperm (by decide +kernel) (by norm_num)]
  decide +kernel

end HrirAtlas.Layout
