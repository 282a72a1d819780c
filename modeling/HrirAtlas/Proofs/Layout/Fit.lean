import HrirAtlas.Proofs.Layout.Uniform
import HrirAtlas.Proofs.Stage

/-
What an accepted division says about the values. The azimuths of a counted row are near multiples of
its step, and the elevations of a field with a step are near the highest rows of a grid that is
symmetric about the equator. The tolerance is that of the test: nothing is said about exact points.
-/

namespace HrirAtlas.Layout

variable {tolerance : ℚ}

/-! ## Azimuths of a row -/

theorem offGrid_ok {step value : ℚ} (h : offGrid tolerance step value = .ok false) :
    ∃ m : ℤ, |value - m * step| ≤ tolerance := by
  unfold offGrid at h
  obtain ⟨ratio, -, h⟩ := except_bind_ok h
  obtain ⟨m, -, h⟩ := except_bind_ok h
  have hoff := of_decide_eq_false (Except.ok.inj h)
  rw [Exact.abs_eq, gt_iff_lt, not_lt] at hoff
  exact ⟨m, hoff⟩

theorem allOnGrid_ok {step : ℚ} : ∀ {values : List ℚ}, allOnGrid tolerance step values = .ok true →
    ∀ value ∈ values, ∃ m : ℤ, |value - m * step| ≤ tolerance
  | first :: rest, h, value, hvalue => by
    unfold allOnGrid at h
    obtain ⟨off, hoff, h⟩ := except_bind_ok h
    cases off with
    | true => cases h
    | false =>
      rcases List.mem_cons.1 hvalue with rfl | hvalue
      · exact offGrid_ok hoff
      · exact allOnGrid_ok h value hvalue

/-- A counted row has a number of azimuths that a row can have, its least gap is near their step, and so
is every azimuth near a multiple of it. -/
theorem azimuthCount?_some {values : List ℚ} {n : Nat} (h : azimuthCount? tolerance values = .ok (some n)) :
    ∃ first second rest, values = first :: second :: rest ∧ (2 ≤ n ∧ n ≤ 255) ∧
      |Scalar.least (second - first) (gapsAfter (first + 360.0) second rest) - 360 / n| ≤ tolerance ∧
      allOnGrid tolerance (360 / n) values = .ok true := by
  match values, h with
  | first :: second :: rest, h =>
    obtain ⟨ratio, -, h⟩ := except_bind_ok h
    obtain ⟨count, -, h⟩ := except_bind_ok h
    split at h
    · cases h
    rename_i hcount
    unfold minAzimuths maxAzimuths at hcount
    simp only at h
    split at h
    · cases h
    rename_i hnear
    obtain ⟨onGrid, hgrid, h⟩ := except_bind_ok h
    cases onGrid with
    | false => cases h
    | true =>
      obtain rfl : count.toNat = n := Option.some.inj (Except.ok.inj h)
      have hstep : (360.0 : ℚ) / Scalar.ofInt count = 360 / (count.toNat : ℚ) := by
        have hcast : ((count.toNat : Nat) : ℚ) = (count : ℚ) := by
          exact_mod_cast (Int.toNat_of_nonneg (show 0 ≤ count by omega))
        rw [Exact.ofInt_eq, hcast]
        norm_num
      rw [hstep] at hnear hgrid
      rw [Exact.abs_eq, gt_iff_lt, not_lt] at hnear
      exact ⟨first, second, rest, rfl, by omega, hnear, hgrid⟩

/-- A counted row has its azimuths near the columns of a full row. -/
theorem azimuthCount?_ok {values : List ℚ} {n : Nat} (h : azimuthCount? tolerance values = .ok (some n)) :
    (2 ≤ n ∧ n ≤ 255) ∧ ∀ value ∈ values, ∃ m : ℤ, |value - m * (360 / n)| ≤ tolerance := by
  obtain ⟨first, second, rest, -, hn, -, hgrid⟩ := azimuthCount?_some h
  exact ⟨hn, allOnGrid_ok hgrid⟩

/-! ## Elevations of a field -/

/-- The elevations, from the top down, are near the highest rows of the grid of `count` steps from `-top`
to `top`, and the grid has a row for each. -/
structure FitsGrid (tolerance top : ℚ) (elevations : List ℚ) (count : Nat) : Prop where
  pos : 0 < count
  room : elevations.length ≤ count + 1
  near : ∀ i (h : i < elevations.length), |elevations[i] - (top - i * (2 * top / count))| ≤ tolerance

theorem rowsFit_iff {top step : ℚ} : ∀ {elevations : List ℚ} {row : Nat},
    rowsFit tolerance top step row elevations = true ↔
      ∀ i (h : i < elevations.length), |elevations[i] - (top - (row + i : Nat) * step)| ≤ tolerance
  | [], row => ⟨fun _ i hi => absurd hi (Nat.not_lt_zero i), fun _ => rfl⟩
  | elevation :: rest, row => by
    unfold rowsFit
    rw [Bool.and_eq_true, Bool.not_eq_true', decide_eq_false_iff_not, Exact.abs_eq, gt_iff_lt, not_lt, rowsFit_iff]
    constructor
    · rintro ⟨hfirst, hrest⟩ i hi
      cases i with
      | zero => exact hfirst
      | succ i =>
        have hnear := hrest i (Nat.lt_of_succ_lt_succ hi)
        rwa [Nat.succ_add_eq_add_succ] at hnear
    · refine fun h => ⟨h 0 (Nat.succ_pos _), fun i hi => ?_⟩
      rw [Nat.succ_add_eq_add_succ]
      exact h (i + 1) (Nat.succ_lt_succ hi)

theorem fitsGrid_succ_iff {top : ℚ} {elevations : List ℚ} {count : Nat} :
    FitsGrid tolerance top elevations (count + 1) ↔ elevations.length ≤ count + 2 ∧
      rowsFit tolerance top (2.0 * top / Scalar.ofInt (count + 1)) 0 elevations = true := by
  have hstep : 2.0 * top / Scalar.ofInt (count + 1) = 2 * top / ((count + 1 : Nat) : ℚ) := by
    rw [Exact.ofInt_eq]
    push_cast
    norm_num
  rw [hstep, rowsFit_iff]
  simp only [Nat.zero_add]
  exact ⟨fun h => ⟨h.room, h.near⟩, fun h => ⟨Nat.succ_pos count, h.1, h.2⟩⟩

/-- The search finds the step of the greatest number of steps that fits, of those it tries. -/
theorem finestStep?_outcome (tolerance top : ℚ) (elevations : List ℚ) : ∀ bound : Nat,
    (∃ count, IsGreatest {count | count ≤ bound ∧ FitsGrid tolerance top elevations count} count ∧
      finestStep? tolerance top elevations bound = some (2 * top / count)) ∨
    ((∀ count ≤ bound, ¬ FitsGrid tolerance top elevations count) ∧
      finestStep? tolerance top elevations bound = none)
  | 0 => .inr ⟨fun count hle h => absurd h.pos (by omega), rfl⟩
  | bound + 1 => by
    have hnext : FitsGrid tolerance top elevations (bound + 1) ↔ _ := fitsGrid_succ_iff
    unfold finestStep?
    split
    · rename_i hroom
      exact .inr ⟨fun count hle h => absurd h.room (by omega), rfl⟩
    rename_i hroom
    simp only
    split
    · rename_i hfit
      refine .inl ⟨bound + 1, ⟨⟨le_rfl, hnext.2 ⟨by omega, hfit⟩⟩, fun count h => h.1⟩, ?_⟩
      rw [Exact.ofInt_eq]
      push_cast
      norm_num
    -- the count that was tried does not fit, so it is neither found nor above the one that is
    rename_i hfit
    have hother : ∀ {count}, count ≤ bound + 1 → FitsGrid tolerance top elevations count → count ≤ bound := by
      intro count hle h
      rcases hle.eq_or_lt with rfl | hlt
      · exact absurd (hnext.1 h).2 hfit
      · omega
    rcases finestStep?_outcome tolerance top elevations bound with ⟨count, ⟨⟨hle, hfits⟩, hgreatest⟩, hfound⟩ | ⟨hnone, hfound⟩
    · exact .inl ⟨count, ⟨⟨by omega, hfits⟩, fun more h => hgreatest ⟨hother h.1 h.2, h.2⟩⟩, hfound⟩
    · exact .inr ⟨fun count hle h => hnone count (hother hle h) h, hfound⟩

/-- Elevations with a step are near the highest rows of a grid, symmetric about the equator, that
ends at the topmost of them. -/
theorem elevationStep?_ok {elevations : List ℚ} {step : ℚ} (hsorted : elevations.Pairwise (· ≤ ·))
    (h : elevationStep? tolerance elevations = .ok (some step)) :
    ∃ (top : ℚ) (k : Nat), elevations.getLast? = some top ∧ 0 < top ∧ (0 < k ∧ k ≤ 180) ∧ step = 2 * top / k ∧
      elevations.length ≤ k + 1 ∧
      ∀ i (hi : i < elevations.length),
        |elevations[i] - (-top + (k + 1 - elevations.length + i : Nat) * step)| ≤ tolerance := by
  have hdescending := mergeSort_descending hsorted
  unfold elevationStep? at h
  rw [hdescending] at h
  split at h
  · rename_i top second rest hreverse
    split at h
    · cases h
    rename_i htop
    obtain ⟨ratio, -, h⟩ := except_bind_ok h
    obtain ⟨count, -, h⟩ := except_bind_ok h
    have hanswer := Except.ok.inj h
    rcases finestStep?_outcome tolerance top (top :: second :: rest) (min count (maxRows - 1)).toNat with
      ⟨k, ⟨⟨hle, hfits⟩, -⟩, hfound⟩ | ⟨-, hnone⟩
    · obtain rfl : 2 * top / k = step := Option.some.inj (hfound.symm.trans hanswer)
      have hlength : (top :: second :: rest).length = elevations.length := by rw [← hreverse, List.length_reverse]
      have hpos := hfits.pos
      have hroom := hfits.room
      have hk : (k : ℚ) ≠ 0 := by exact_mod_cast hpos.ne'
      refine ⟨top, k, ?_, ?_, ⟨hpos, ?_⟩, rfl, by omega, fun i hi => ?_⟩
      · rw [List.getLast?_eq_head?_reverse, hreverse, List.head?_cons]
      · exact Exact.pos_of_not_le htop
      · unfold maxRows at hle
        omega
      · -- counted from the top, the row is the last but so many
        have hrow := hfits.near (elevations.length - 1 - i) (by omega)
        have helevation : (top :: second :: rest)[elevations.length - 1 - i] = elevations[i] := by
          simp only [← hreverse, List.getElem_reverse]
          congr 1
          omega
        have hplace : ((k + 1 - elevations.length + i : Nat) : ℚ) = k - (elevations.length - 1 - i : Nat) := by
          rw [← Nat.cast_sub (by omega)]
          congr 1
          omega
        rw [helevation] at hrow
        rw [hplace, show -top + ((k : ℚ) - (elevations.length - 1 - i : Nat)) * (2 * top / k) =
          top - (elevations.length - 1 - i : Nat) * (2 * top / k) by field_simp; ring]
        exact hrow
    · cases hnone.symm.trans hanswer
  · cases h

end HrirAtlas.Layout
