import HrirAtlas.Proofs.Layout.Fit

/-
The columns of a counted row. A column stands for the azimuths within the tolerance of a multiple of
the row's step. The least gap of the row is near that step, and a step is wider than all tolerances
together, so no two azimuths share a column. The gap that closes the circle counts with the others,
which is why the first and the last azimuth do not meet across the seam either.
-/

namespace HrirAtlas.Layout

variable {n : Nat}

/-! ## Columns -/

theorem step_ge (hn : 2 ≤ n ∧ n ≤ 255) : (1.4 : ℚ) ≤ 360 / n := by
  have hpos : (0 : ℚ) < n := by exact_mod_cast (show 0 < n by omega)
  have hle : (n : ℚ) ≤ 255 := by exact_mod_cast hn.2
  rw [le_div_iff₀ hpos]
  norm_num
  linarith

/-- An azimuth is near one column only. -/
theorem column_unique (hn : 2 ≤ n ∧ n ≤ 255) {azimuth : ℚ} {m k : ℤ} (hm : |azimuth - m * (360 / n)| ≤ 0.1)
    (hk : |azimuth - k * (360 / n)| ≤ 0.1) : m = k := by
  have hstep := step_ge hn
  have hnear : |((m - k : ℤ) : ℚ)| * (360 / n) ≤ 0.2 := by
    calc |((m - k : ℤ) : ℚ)| * (360 / n) = |(azimuth - k * (360 / n)) - (azimuth - m * (360 / n))| := by
          rw [← abs_of_pos (show (0 : ℚ) < 360 / n by norm_num at hstep; linarith), ← abs_mul]
          push_cast
          rw [abs_of_pos (show (0 : ℚ) < 360 / n by norm_num at hstep; linarith)]
          ring_nf
      _ ≤ 0.1 + 0.1 := (abs_sub _ _).trans (add_le_add hk hm)
      _ = 0.2 := by norm_num
  have hlt : |((m - k : ℤ) : ℚ)| < 1 := by
    norm_num at hstep hnear ⊢
    nlinarith
  have hlt' : |m - k| < 1 := by exact_mod_cast hlt
  exact sub_eq_zero.1 (Int.abs_lt_one_iff.1 hlt')

/-- Azimuths that are nearly a step apart, both ways around the circle, have columns less than a turn
apart, the first below the second. -/
theorem column_lt (hn : 2 ≤ n ∧ n ≤ 255) {x y : ℚ} {m k : ℤ} (hm : |x - m * (360 / n)| ≤ 0.1)
    (hk : |y - k * (360 / n)| ≤ 0.1) (hxy : x + (360 / n - 0.1) ≤ y) (hyx : y + (360 / n - 0.1) ≤ x + 360) :
    m < k ∧ k < m + n := by
  have hstep := step_ge hn
  have hpos : (0 : ℚ) < n := by exact_mod_cast (show 0 < n by omega)
  have hturn : (n : ℚ) * (360 / n) = 360 := mul_div_cancel₀ 360 hpos.ne'
  rw [abs_le] at hm hk
  norm_num at hstep hm hk hxy hyx
  constructor
  · have hlt : (m : ℚ) < k := by nlinarith
    exact_mod_cast hlt
  · have hlt : (k : ℚ) < m + n := by nlinarith
    exact_mod_cast hlt

/-- There are no more columns than a full row has, as long as none is taken twice. -/
theorem length_le_of_incongruent (hn : 0 < n) {columns : List ℤ}
    (h : columns.Pairwise fun m k => ¬ m ≡ k [ZMOD n]) : columns.length ≤ n := by
  have hnodup : (columns.map (· % (n : ℤ))).Nodup := List.pairwise_map.2 h
  have hrange : (columns.map (· % (n : ℤ))).toFinset ⊆ Finset.Ico 0 (n : ℤ) := by
    intro r hr
    obtain ⟨m, -, rfl⟩ := List.mem_map.1 (List.mem_toFinset.1 hr)
    have hn' : (0 : ℤ) < n := by exact_mod_cast hn
    exact Finset.mem_Ico.2 ⟨Int.emod_nonneg m hn'.ne', Int.emod_lt_of_pos m hn'⟩
  calc columns.length = (columns.map (· % (n : ℤ))).toFinset.card := by
        rw [List.toFinset_card_of_nodup hnodup, List.length_map]
    _ ≤ (Finset.Ico 0 (n : ℤ)).card := Finset.card_le_card hrange
    _ = n := by rw [Int.card_Ico, sub_zero, Int.toNat_natCast]

/-! ## Gaps of a counted row -/

/-- The azimuths of a counted row, and the first one a turn later, are nearly a step apart. -/
theorem gaps_of_azimuthCount? {azimuths : List ℚ} (h : azimuthCount? angleTolerance azimuths = .ok (some n)) :
    ∃ (first : ℚ) (rest : List ℚ), azimuths = first :: rest ∧
      (azimuths ++ [first + 360]).Pairwise fun x y : ℚ => x + (360 / n - 0.1) ≤ y := by
  obtain ⟨first, second, rest, rfl, hn, hnear, -⟩ := azimuthCount?_some h
  have hleast := (isLeast_least (second - first) (gapsAfter (first + 360.0) second rest)).2
  rw [angleTolerance_eq, abs_le] at hnear
  have hgaps : ∀ gap ∈ gapsAfter (first + 360.0) first (second :: rest), 360 / n - 0.1 ≤ gap := fun gap hgap => by
    have hle := hleast hgap
    norm_num at hnear ⊢
    linarith
  have hchain := forall_mem_gapsAfter.1 hgaps
  rw [show (360.0 : ℚ) = 360 by norm_num] at hchain
  have htrans : Trans (fun x y : ℚ => x + (360 / n - 0.1) ≤ y) (fun x y => x + (360 / n - 0.1) ≤ y)
      fun x y => x + (360 / n - 0.1) ≤ y := ⟨fun {x y z} hxy hyz => by
    have hstep := step_ge hn
    norm_num at hstep hxy hyz ⊢
    linarith⟩
  refine ⟨first, second :: rest, rfl, List.IsChain.pairwise (hchain.imp fun x y hxy => ?_)⟩
  linarith

/-! ## Columns of a counted row -/

/-- A full row has from two to 255 azimuths, and no fewer than were found in it. Each azimuth found is
within a tenth of a degree of one column, and no two of them, counted around the circle, are near the
same. -/
theorem azimuthCount?_ownColumns {azimuths : List ℚ} (h : azimuthCount? angleTolerance azimuths = .ok (some n)) :
    (2 ≤ n ∧ n ≤ 255) ∧ azimuths.length ≤ n ∧ ∃ column : ℚ → ℤ,
      (∀ azimuth ∈ azimuths, ∀ m : ℤ, |azimuth - m * (360 / n)| ≤ 0.1 ↔ m = column azimuth) ∧
        azimuths.Pairwise fun x y => ¬ column x ≡ column y [ZMOD n] := by
  obtain ⟨hn, hnear⟩ := azimuthCount?_ok h
  rw [angleTolerance_eq] at hnear
  choose! column hcolumn using hnear
  obtain ⟨first, rest, rfl, hgaps⟩ := gaps_of_azimuthCount? h
  have hapart : (first :: rest).Pairwise fun x y => ¬ column x ≡ column y [ZMOD n] := by
    obtain ⟨hwithin, -, hclosing⟩ := List.pairwise_append.1 hgaps
    refine hwithin.imp_of_mem fun {x y} hx hy hxy hsame => ?_
    -- the first azimuth comes last once more, a turn later, and `y` is nearly a step before it
    have hturn : y + (360 / n - 0.1) ≤ x + 360 := by
      have hlast := hclosing y hy (first + 360) (List.mem_singleton.2 rfl)
      have hfirst : first ≤ x := by
        rcases List.mem_cons.1 hx with rfl | hx
        · exact le_rfl
        · have hstep := step_ge hn
          have hle := (List.pairwise_cons.1 hwithin).1 x hx
          norm_num at hstep hle
          linarith
      linarith
    obtain ⟨hlt, hlt'⟩ := column_lt hn (hcolumn x hx) (hcolumn y hy) hxy hturn
    have hle := Int.le_of_dvd (by omega) hsame.dvd
    omega
  refine ⟨hn, ?_, column, fun azimuth hmem m => ⟨fun hm => ?_, ?_⟩, hapart⟩
  · rw [← List.length_map (f := column)]
    exact length_le_of_incongruent (by omega) (List.pairwise_map.2 hapart)
  · exact column_unique hn hm (hcolumn azimuth hmem)
  · rintro rfl
    exact hcolumn azimuth hmem

/-- Three azimuths of a row of four, each off its column, the first from beyond the seam. -/
def roughRow : List ℚ := [-1 / 20, 1801 / 20, 180]

theorem azimuthCount?_roughRow : azimuthCount? angleTolerance roughRow = .ok (some 4) := by decide +kernel

theorem azimuthCount?_ownColumns_rough : azimuthCount? angleTolerance roughRow = .ok (some 4) ∧ roughRow.length ≤ 4 ∧
    ∃ column : ℚ → ℤ, column (-1 / 20) = 0 ∧ roughRow.Pairwise fun x y => ¬ column x ≡ column y [ZMOD 4] := by
  obtain ⟨-, hlength, column, hnear, hapart⟩ := azimuthCount?_ownColumns azimuthCount?_roughRow
  refine ⟨azimuthCount?_roughRow, hlength, column, ?_, hapart⟩
  exact ((hnear (-1 / 20) List.mem_cons_self 0).1 (by norm_num [abs_le])).symm

end HrirAtlas.Layout
