import HrirAtlas.Proofs.Exact.Scalar

/-
Rounding and remainders of rational numbers. A rounded value is at most a half away, so a value that
is nearer than a half to an integer rounds to it, whatever becomes of the halves between. The
remainder of a value below the divisor is the value.
-/

namespace HrirAtlas.Exact

/-! ## Rounding -/

/-- The quotient that is rounded to is at most a half away. -/
theorem divHalfEven_near (num : Nat) {den : Nat} (h : 0 < den) :
    2 * num ≤ den * (2 * Nat.divHalfEven num den + 1) ∧ den * (2 * Nat.divHalfEven num den) ≤ 2 * num + den := by
  have hnum := Nat.div_add_mod num den
  have hmod := Nat.mod_lt num h
  have hexpand : ∀ q, den * (2 * q) = 2 * (den * q) ∧ den * (2 * q + 1) = 2 * (den * q) + den := fun q => by
    constructor <;> ring
  have hsucc : den * (num / den + 1) = den * (num / den) + den := Nat.mul_succ ..
  rw [(hexpand _).1, (hexpand _).2]
  unfold Nat.divHalfEven
  simp only
  split
  · omega
  split
  · omega
  · -- a half goes up or down
    rcases Nat.mod_two_eq_zero_or_one (num / den) with heven | hodd
    · rw [heven, Nat.add_zero]
      omega
    · rw [hodd]
      omega

theorem abs_mul_den (x : ℚ) : |x| * x.den = x.num.natAbs := by
  have hden : (0 : ℚ) < x.den := by exact_mod_cast x.den_pos
  calc |x| * x.den = |x * x.den| := by rw [abs_mul, abs_of_pos hden]
    _ = |(x.num : ℚ)| := by rw [Rat.mul_den_eq_num]
    _ = x.num.natAbs := by rw [Nat.cast_natAbs, Int.cast_abs]

theorem exists_round (x : ℚ) : ∃ r : ℤ, Scalar.round x = .ok r ∧ |x - r| ≤ 1 / 2 := by
  obtain ⟨hupper, hlower⟩ := divHalfEven_near x.num.natAbs x.den_pos
  have hden : (0 : ℚ) < x.den := by exact_mod_cast x.den_pos
  have habs := abs_mul_den x
  have hmagnitude : |(|x| - Nat.divHalfEven x.num.natAbs x.den)| ≤ 1 / 2 := by
    have hupper' : 2 * (x.num.natAbs : ℚ) ≤ x.den * (2 * Nat.divHalfEven x.num.natAbs x.den + 1) := by
      exact_mod_cast hupper
    have hlower' : x.den * (2 * (Nat.divHalfEven x.num.natAbs x.den : ℚ)) ≤ 2 * x.num.natAbs + x.den := by
      exact_mod_cast hlower
    rw [← habs] at hupper' hlower'
    rw [abs_le]
    constructor
    · refine le_of_mul_le_mul_right ?_ hden
      linarith
    · refine le_of_mul_le_mul_right ?_ hden
      linarith
  refine ⟨_, rfl, ?_⟩
  show |x - ((Reading.signed (decide (x < 0)) (Nat.divHalfEven x.num.natAbs x.den) : ℤ) : ℚ)| ≤ 1 / 2
  unfold Reading.signed
  by_cases hneg : x < 0
  · rw [abs_of_neg hneg] at hmagnitude
    rw [decide_eq_true hneg, if_pos rfl, ← abs_neg]
    push_cast
    rwa [show -(x - -(Nat.divHalfEven x.num.natAbs x.den : ℚ)) = -x - Nat.divHalfEven x.num.natAbs x.den by ring]
  · rw [abs_of_nonneg (not_lt.1 hneg)] at hmagnitude
    rw [decide_eq_false hneg, if_neg nofun]
    exact hmagnitude

/-- A value nearer than a half to an integer rounds to it. -/
theorem round_of_near {x : ℚ} {n : ℤ} (h : |x - n| < 1 / 2) : Scalar.round x = .ok n := by
  obtain ⟨r, hr, hnear⟩ := exists_round x
  have hlt : |((n - r : ℤ) : ℚ)| < 1 := by
    calc |((n - r : ℤ) : ℚ)| = |(x - r) - (x - n)| := by push_cast; ring_nf
      _ ≤ |x - r| + |x - n| := abs_sub _ _
      _ < 1 := by linarith
  have hlt' : |n - r| < 1 := by exact_mod_cast hlt
  rw [hr, sub_eq_zero.1 (Int.abs_lt_one_iff.1 hlt')]

/-- Rounding keeps the order of values. -/
theorem round_mono {x y : ℚ} {m n : ℤ} (hle : x ≤ y) (hx : Scalar.round x = .ok m) (hy : Scalar.round y = .ok n) :
    m ≤ n := by
  obtain ⟨r, hr, hnear⟩ := exists_round x
  obtain rfl : r = m := Except.ok.inj (hr.symm.trans hx)
  obtain ⟨s, hs, hnear'⟩ := exists_round y
  obtain rfl : s = n := Except.ok.inj (hs.symm.trans hy)
  rw [abs_le] at hnear hnear'
  by_contra hgt
  -- only one half is between them, so both are that half
  have hcast : (s : ℚ) + 1 ≤ r := by exact_mod_cast Int.add_one_le_iff.2 (not_le.1 hgt)
  have hsame : x = y := by linarith
  rw [hsame] at hr
  exact absurd (Except.ok.inj (hr.symm.trans hs)) (not_le.1 hgt).ne'

/-! ## Remainders -/

theorem rem_of_lt {x y : ℚ} (h0 : 0 ≤ x) (hlt : x < y) : Scalar.rem x y = x := by
  have hpos : 0 < y := lt_of_le_of_lt h0 hlt
  have hquot : (x / y).num.tdiv (x / y).den = 0 := by
    have hnonneg : 0 ≤ (x / y).num := Rat.num_nonneg.2 (div_nonneg h0 hpos.le)
    have hbelow : (x / y).num < (x / y).den := Rat.num_lt_denom_iff.2 ((div_lt_one hpos).2 hlt)
    exact Int.tdiv_eq_zero_of_lt hnonneg hbelow
  show x - y * (((x / y).num.tdiv (x / y).den : ℤ) : ℚ) = x
  rw [hquot, Int.cast_zero, mul_zero, sub_zero]

theorem rem_self {y : ℚ} (h : 0 < y) : Scalar.rem y y = 0 := by
  show y - y * (((y / y).num.tdiv (y / y).den : ℤ) : ℚ) = 0
  rw [div_self h.ne']
  norm_num

end HrirAtlas.Exact
