import HrirAtlas.Proofs.Layout.Usable

/-
The density check compares neighbouring rows only, but what it refuses is a growth of the counts
between any two rows of one hemisphere: without a pair of neighbours that get denser, the counts are
monotone below the equator and above it. The rows near the equator belong to both hemispheres, so no
pair that a bad neighbour lies between is missed.
-/

namespace HrirAtlas.Layout

/-- Some row has more azimuths than another one of its hemisphere that is nearer to the equator; a row
within a tenth of a degree of the equator is in both hemispheres. -/
def GrowsPoleward (counts : List Int) (evLimit step : ℚ) : Prop :=
  ∃ i j : Fin counts.length, i < j ∧
    ((-evLimit + (j : Nat) * step ≤ 0.1 ∧ counts[j] < counts[i]) ∨
      (-0.1 ≤ -evLimit + (i : Nat) * step ∧ counts[i] < counts[j]))

section Checked

variable {counts : List Int} {evLimit step distance : ℚ}

/-- The check fails at neighbouring rows, and names them. -/
theorem denser_of_refused : ∀ {counts : List Int} {row : Nat} {cause : LayoutFault ℚ},
    checkDensityFrom evLimit step distance row counts = .error cause →
      ∃ i j : Fin counts.length, (j : Nat) = i + 1 ∧ ∃ lower upper,
        lower = -evLimit + (row + i : Nat) * step ∧ upper = lower + step ∧
        denser lower upper counts[i] counts[j] = true ∧
        cause = .denserPoleward lower counts[i] upper counts[j] distance
  | [], _, _, h => by cases h
  | [_], _, _, h => by cases h
  | lower :: upper :: counts, row, cause, h => by
    unfold checkDensityFrom at h
    simp only at h
    split at h
    · rename_i hdenser
      cases h
      exact ⟨0, 1, rfl, _, _, rfl, rfl, hdenser, rfl⟩
    · obtain ⟨i, j, hnext, below, above, hbelow, habove, hdenser, hcause⟩ := denser_of_refused h
      refine ⟨i.succ, j.succ, congrArg (· + 1) hnext, below, above, ?_, habove, hdenser, hcause⟩
      rw [hbelow, Nat.add_right_comm, Nat.add_assoc]
      rfl

/-- Neighbouring rows that get denser are a growth. -/
theorem growsPoleward_of_denser {i j : Fin counts.length} (hnext : (j : Nat) = i + 1)
    (hdenser : denser (-evLimit + (i : Nat) * step) (-evLimit + (i : Nat) * step + step) counts[i] counts[j] = true) :
    GrowsPoleward counts evLimit step := by
  have hij : i < j := Fin.lt_def.2 (by omega)
  by_contra hnot
  have hkept :
      denser (-evLimit + (i : Nat) * step) (-evLimit + (i : Nat) * step + step) counts[i] counts[j] = false := by
    rw [denser_eq_false_iff]
    constructor
    · intro hlow
      by_contra hlt
      refine hnot ⟨i, j, hij, .inl ⟨?_, not_le.1 hlt⟩⟩
      rw [hnext]
      push_cast
      linarith
    · intro hhigh
      by_contra hlt
      exact hnot ⟨i, j, hij, .inr ⟨hhigh, not_le.1 hlt⟩⟩
  rw [hkept] at hdenser
  cases hdenser

/-- The check passes exactly the counts that do not grow. -/
theorem checkDensity_ok_iff (hstep : 0 < step) :
    checkDensity counts evLimit step distance = .ok () ↔ ¬ GrowsPoleward counts evLimit step := by
  constructor
  · rintro hok ⟨i, j, hij, ⟨hlow, hgrows⟩ | ⟨hhigh, hgrows⟩⟩
    · exact not_le.2 hgrows (le_of_checked_below hok hstep.le hij.le j.2 hlow)
    · exact not_le.2 hgrows (le_of_checked_above hok hstep.le hij.le j.2 hhigh)
  · intro hnot
    cases hchecked : checkDensity counts evLimit step distance with
    | ok => rfl
    | error cause =>
      obtain ⟨i, j, hnext, lower, upper, hlower, hupper, hdenser, -⟩ := denser_of_refused hchecked
      rw [Nat.zero_add] at hlower
      subst hlower hupper
      exact absurd (growsPoleward_of_denser hnext hdenser) hnot

end Checked

/-! ## Detected layouts -/

/-- The detection checks the grid up to the topmost row that was measured, which ends at most a
thousandth of a degree below the grid of the layout. -/
theorem Placed.elevation_near {rows : List (ℚ × Nat)} {top step : ℚ} {k : Nat} {l : Layout ℚ}
    (h : Placed rows top step k l) {row : Nat} (hrow : row < l.azCounts.length) :
    -l.evLimit + row * step ≤ l.elevation row ∧ l.elevation row ≤ -l.evLimit + row * step + 0.002 := by
  have hk := h.intervals_pos
  have hrow' : (row : ℚ) ≤ k := by
    have hsize := h.size
    exact_mod_cast (show row ≤ k by omega)
  obtain ⟨hbelow, hnear⟩ := h.limit_near
  have hgap : l.elevation row - (-l.evLimit + row * step) = row / k * (2 * (l.evLimit - top)) := by
    unfold Layout.elevation
    rw [h.layout_step, h.step_eq]
    ring
  have hshare : 0 ≤ (row : ℚ) / k ∧ (row : ℚ) / k ≤ 1 := ⟨by positivity, (div_le_one hk).2 hrow'⟩
  constructor
  · have hnonneg := mul_nonneg hshare.1 (show 0 ≤ 2 * (l.evLimit - top) by linarith)
    linarith
  · have hle := mul_le_mul_of_nonneg_right hshare.2 (show 0 ≤ 2 * (l.evLimit - top) by linarith)
    norm_num at hnear ⊢
    linarith

/-- On the elevations of the layout, the counts rise up to the equator and fall behind it. -/
theorem MadeOf.counts_fall {rows : List (ℚ × Nat)} {lowest highest step : ℚ} {intervals : Int} {measured : List Int}
    {l : Layout ℚ} (h : MadeOf rows lowest highest step intervals measured l) (htop : highest ≤ 90)
    {i j : Fin l.azCounts.length} (hij : i < j) :
    (l.elevation j ≤ 0 → l.azCounts[i] ≤ l.azCounts[j]) ∧ (0 ≤ l.elevation i → l.azCounts[j] ≤ l.azCounts[i]) := by
  obtain ⟨k, hplaced⟩ := h.toDerived.placed h.sorted h.last htop
  constructor
  · intro hlow
    have hbelow := (hplaced.elevation_near j.2).1
    refine le_of_checked_below h.density h.step_pos.le hij.le j.2 ?_
    norm_num
    linarith
  · intro hhigh
    have habove := (hplaced.elevation_near i.2).2
    refine le_of_checked_above h.density h.step_pos.le hij.le j.2 ?_
    norm_num at habove ⊢
    linarith

/-- The density check is global. It fails exactly if the counts grow toward a pole between some two
rows, neighbours or not; so no detected layout has such rows on the grid it was detected on, and from
positions with proper elevations none has them on its own. -/
theorem checkDensity_global :
    (∀ (counts : List Int) (evLimit step distance : ℚ), 0 < step →
      ((∃ cause, checkDensity counts evLimit step distance = .error cause) ↔ GrowsPoleward counts evLimit step)) ∧
    ∀ (positions : List (Spherical ℚ)) (layouts : List (Layout ℚ)), (detect positions).2 = .ok layouts →
      ∀ l ∈ layouts,
        (∃ rows lowest highest step intervals measured, MadeOf rows lowest highest step intervals measured l ∧
          ¬ GrowsPoleward l.azCounts l.evLimit step) ∧
        ((∀ p ∈ positions, |p.elevation| ≤ 90) → ∀ i j : Fin l.azCounts.length, i < j →
          (l.elevation j ≤ 0 → l.azCounts[i] ≤ l.azCounts[j]) ∧
            (0 ≤ l.elevation i → l.azCounts[j] ≤ l.azCounts[i])) := by
  constructor
  · intro counts evLimit step distance hstep
    have hiff : checkDensity counts evLimit step distance = .ok () ↔ ¬ GrowsPoleward counts evLimit step :=
      checkDensity_ok_iff hstep
    constructor
    · rintro ⟨cause, hcause⟩
      by_contra hnot
      rw [hiff.2 hnot] at hcause
      cases hcause
    · intro hgrows
      cases hchecked : checkDensity counts evLimit step distance with
      | ok => exact absurd hgrows (hiff.1 hchecked)
      | error cause => exact ⟨cause, rfl⟩
  · intro positions layouts h l hl
    obtain ⟨rows, lowest, highest, step, intervals, measured, hmade, p, hp, rfl⟩ := madeOf_of_detect h hl
    constructor
    · exact ⟨_, _, _, _, _, _, hmade, (checkDensity_ok_iff hmade.step_pos).1 hmade.density⟩
    · intro hproper i j hij
      exact hmade.counts_fall (abs_le.1 (hproper p hp)).2 hij

/-- Rows at the lower pole and at the equator, with one between them, are a growth and so refused; the
detected dome has none. -/
theorem checkDensity_global_dome :
    (0 < (45 : ℚ) ∧ GrowsPoleward [6, 6, 4, 2, 1] 90 45 ∧
      ∃ cause, checkDensity [6, 6, 4, 2, 1] 90 45 (1 : ℚ) = .error cause) ∧
    (∀ p ∈ domePositions, |p.elevation| ≤ 90) ∧ 0 ≤ domeLayout.elevation 1 ∧
      domeLayout.azCounts[(2 : Fin 3)] ≤ domeLayout.azCounts[(1 : Fin 3)] := by
  have hstep : 0 < (45 : ℚ) := by norm_num
  have hgrows : GrowsPoleward [6, 6, 4, 2, 1] 90 45 := ⟨0, 2, by decide, .inl ⟨by norm_num, by decide⟩⟩
  have hproper : ∀ p ∈ domePositions, |p.elevation| ≤ 90 := by decide +kernel
  have hequator : 0 ≤ domeLayout.elevation 1 := by decide +kernel
  obtain ⟨-, hfall⟩ := checkDensity_global.2 domePositions [domeLayout] detect_domePositions domeLayout
    List.mem_cons_self
  refine ⟨⟨hstep, hgrows, (checkDensity_global.1 _ 90 45 1 hstep).2 hgrows⟩, hproper, hequator, ?_⟩
  exact (hfall hproper (1 : Fin 3) (2 : Fin 3) (by decide)).2 hequator

end HrirAtlas.Layout
